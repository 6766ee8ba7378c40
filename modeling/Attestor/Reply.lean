namespace Attestor

inductive Reply (ε α : Type) where
  | value (a : α)
  | failure (e : ε)
  /-- No answer ever comes. -/
  | never
deriving DecidableEq, Repr

namespace Reply

def andThen {ε α β : Type} (reply : Reply ε α) (next : α → Reply ε β) : Reply ε β :=
  match reply with
  | value a => next a
  | failure e => failure e
  | never => never

instance {ε : Type} : Monad (Reply ε) where
  pure := value
  bind := andThen

def mapError {ε δ α : Type} (f : ε → δ) : Reply ε α → Reply δ α
  | value a => value a
  | failure e => failure (f e)
  | never => never

end Reply

end Attestor
