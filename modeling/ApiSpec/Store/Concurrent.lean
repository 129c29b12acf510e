import ApiSpec.Store

/-!
# Scans and readers at once

Threads share one store. A scan first takes the scan lock, which holds the count of scans that
have completed their pipeline. Holding it, the scan runs the pipeline, counts itself and makes
the next snapshot, publishes that snapshot (every reader sees it from then on), and last
releases the lock and returns the snapshot. A reader takes the current snapshot in one step.

A pipeline that faults makes the scan give up while it holds the lock: the lock is released,
nothing is counted or published, and the scan does not return. The next scan takes the lock as
it finds it. A pipeline that never ends keeps the lock for ever.

`SharedStore.step` takes one step of one thread, or a read, and says what the step shows;
`SharedStore.run` takes a list of them in order, one interleaving of the threads. The counting
and the snapshot are those of `Store.scan`: a scan that runs alone leaves the store as
`Store.scan` does.
-/

namespace ApiSpec

/-- Where a thread's scan is. -/
inductive ScanPhase where
  /-- Called, and waiting for the scan lock. -/
  | waiting (m : Manifest) (cfg : Config)
  /-- Holding the lock, running the pipeline. -/
  | generating (m : Manifest) (cfg : Config)
  /-- Holding the lock, counted, with the snapshot made but not published. -/
  | publishing (snap : Snapshot)
  /-- Holding the lock, with the snapshot published. -/
  | returning (snap : Snapshot)
  /-- Returned the snapshot, with the lock released. -/
  | returned (snap : Snapshot)
  /-- Gave up when the pipeline faulted, with the lock released. -/
  | faulted

/-- One step of a thread's scan, or a read. -/
inductive StoreAction where
  | scan (t : Nat) (m : Manifest) (cfg : Config)
  | lock (t : Nat)
  | generate (t : Nat)
  | publish (t : Nat)
  | release (t : Nat)
  | read

/-- What a step shows. -/
inductive StoreEvent where
  /-- A reader's answer. -/
  | read (answer : Except String Snapshot)
  /-- A thread took the scan lock. -/
  | locked (t : Nat)
  /-- A snapshot became the current one. -/
  | published (snap : Snapshot)
  /-- A thread's scan returned a snapshot. -/
  | returned (t : Nat) (snap : Snapshot)
  /-- A thread's pipeline faulted. -/
  | faulted (t : Nat)

/-- A store shared by threads: the count and the current snapshot, the thread holding the scan
lock, and each thread's scan. -/
structure SharedStore where
  store : Store
  holder : Option Nat
  phase : Nat → Option ScanPhase

namespace SharedStore

/-- No scan yet, and no thread scanning. -/
def initial : SharedStore := ⟨Store.empty, none, fun _ => none⟩

/-- Whether a thread can call a scan: it has none, or its last one has ended. -/
def idle (s : SharedStore) (t : Nat) : Bool :=
  match s.phase t with
  | none | some (.returned _) | some .faulted => true
  | some _ => false

/-- The store with thread `t` at phase `p`. -/
def moveTo (s : SharedStore) (t : Nat) (p : ScanPhase) : SharedStore :=
  { s with phase := fun u => if u = t then some p else s.phase u }

/-- One step, with what it shows; `none` when the step cannot be taken. -/
def step (s : SharedStore) : StoreAction → Option (SharedStore × Option StoreEvent)
  | .scan t m cfg => if s.idle t then some (s.moveTo t (.waiting m cfg), none) else none
  | .lock t =>
    match s.phase t, s.holder with
    | some (.waiting m cfg), none =>
      some ({ s.moveTo t (.generating m cfg) with holder := some t }, some (.locked t))
    | _, _ => none
  | .generate t =>
    match s.phase t with
    | some (.generating m cfg) =>
      match s.store.scan m cfg with
      | some (.ok (_, snap)) =>
        some ({ s.moveTo t (.publishing snap) with
          store := { s.store with scans := snap.generation } }, none)
      | some (.error _) => some ({ s.moveTo t .faulted with holder := none }, some (.faulted t))
      | none => none
    | _ => none
  | .publish t =>
    match s.phase t with
    | some (.publishing snap) =>
      some ({ s.moveTo t (.returning snap) with store := { s.store with current := some snap } },
        some (.published snap))
    | _ => none
  | .release t =>
    match s.phase t with
    | some (.returning snap) =>
      some ({ s.moveTo t (.returned snap) with holder := none }, some (.returned t snap))
    | _ => none
  | .read => some (s, some (.read s.store.current?))

/-- Steps in order, with all they show; `none` when one of them cannot be taken. -/
def run (s : SharedStore) : List StoreAction → Option (SharedStore × List StoreEvent)
  | [] => some (s, [])
  | a :: as => do
    let (s₁, e) ← s.step a
    let (s₂, es) ← run s₁ as
    return (s₂, e.toList ++ es)

end SharedStore

end ApiSpec
