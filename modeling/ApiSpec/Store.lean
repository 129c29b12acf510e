import ApiSpec.Pipeline

/-!
# The specification store

A store publishes the document of each scan as a numbered snapshot: the first scan is
generation 1, and each later scan replaces the current snapshot with the next generation.
Asking for the current snapshot before any scan is an error. The count of scans is a 64-bit
unsigned counter, and counting past its largest value starts again from 0.
-/

namespace ApiSpec

/-- A published document with its generation. -/
structure Snapshot where
  generation : UInt64
  document : Document
  deriving Inhabited

/-- The scans so far and the current snapshot. -/
structure Store where
  scans : UInt64
  current : Option Snapshot
  deriving Inhabited

/-- The message when nothing has been published. -/
def specNotGenerated : String := "specification has not been generated yet"

namespace Store

/-- A store before any scan. -/
def empty : Store := ⟨0, none⟩

/-- Scans a model: the next generation is published and returned; `none` when the model's
generation never ends. -/
def scan (s : Store) (m : Manifest) (cfg : Config) : Option (Except StripFault (Store × Snapshot)) :=
  (generateDocument m cfg).map fun r => r.map fun g =>
    let snap : Snapshot := ⟨s.scans + 1, g.document⟩
    (⟨s.scans + 1, some snap⟩, snap)

/-- The current snapshot, or the message saying there is none. -/
def current? (s : Store) : Except String Snapshot :=
  match s.current with
  | some snap => .ok snap
  | none => .error specNotGenerated

end Store

end ApiSpec
