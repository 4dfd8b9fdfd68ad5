import BadSmtp.Go.Text
import BadSmtp.Go.Reader
import BadSmtp.Go.Base64
import BadSmtp.Go.Filepath
import BadSmtp.Smtp.Command
import BadSmtp.Smtp.Errors
import BadSmtp.Smtp.Address
import BadSmtp.Storage.Maildir
import BadSmtp.Server.Session
import BadSmtp.Server.Guards
import BadSmtp.Server.Ehlo
import BadSmtp.Server.Handlers
import BadSmtp.Server.Auth
import BadSmtp.Server.Loop
import BadSmtp.Server.Run
import BadSmtp.Server.Ports
import BadSmtp.Props.Output
import BadSmtp.Props.Answered
import BadSmtp.Props.Invariant
import BadSmtp.Props.States
import BadSmtp.Props.Tls
import BadSmtp.Props.Transaction
import BadSmtp.Props.Scheduled
import BadSmtp.Props.Effects
import BadSmtp.Props.Advertised
import BadSmtp.Props.Addresses
import BadSmtp.Props.Listening
import BadSmtp.Props.AuthExchange
import BadSmtp.Props.Submission
import BadSmtp.Props.Client
import BadSmtp.Props.Drop
import BadSmtp.Props.Conversation
import BadSmtp.Props.Store
import BadSmtp.Props.Delivery
