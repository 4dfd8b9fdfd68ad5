import BadSmtp.Props.Output

/-! Every command line the loop takes is answered before the next is taken: scanning the log,
a line is owed a reply until one follows it. Answered is not written: in pipelining mode the
replies can wait in responseQueue while the session blocks at ReadLine. -/
namespace BadSmtp.Server
open BadSmtp.Go BadSmtp.Smtp

def owedStep : Option Bool → Event → Option Bool
  | some _, .reply _ => some false
  | some false, .line _ => some true
  | _, .line _ => none
  | o, _ => o

/-- Whether the last command line in the log is still owed a response. -/
def owed (log : List Event) : Option Bool := log.foldl owedStep (some false)

@[simp] theorem owed_nil : owed [] = some false := rfl

section
variable {b : Bool}

end

section
variable (cfg : Config) (o : Outcome)

end

section
variable (cfg : Config) (o : Outcome)

end

section
variable (cfg : Config) (o : Outcome)

end

def Pc.payload : Pc → Bool
  | .dataBody | .bdatChunk _ _ | .bdatCrlf _ _ | .authLine _ _ => true
  | _ => false

end BadSmtp.Server
