import BrainHost.Proofs.Message.Run

/-! # What the log sinks hear

The debug sink hears nothing longer than a log message. The error sink does only where it is told a text
that quotes something longer, such as the result of a service. -/

namespace BrainHost

variable {E : Engine}

def listening : World (Engine.idle Unit Unit () (fun _ => ()) fun _ => "") (Minded Unit) :=
  { hooks := ⟨[.errorLog]⟩, host := { own := () } }

end BrainHost
