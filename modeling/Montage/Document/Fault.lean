import Montage.Misfit

/-! Why no value can be read from a document. -/

namespace Montage.Document

inductive Fault where
  /-- The text is no document, holds more than one, or has a part of which no value can
  be made. -/
  | unreadable
  | misfit (cause : Misfit)
  deriving DecidableEq, Repr

end Montage.Document
