import Mathlib.Data.List.Nodup
import ApiSpec.Store.Concurrent

/-!
# Generations of a shared store

Every run of `SharedStore.step` from the initial store, with scans of several threads interleaved
with readers, keeps `SharedStore.Inv`: the lock is held by at most one thread, the count is the
number of publishes (one more while a counted snapshot waits to be published), the current
snapshot is the last one published, and the events so far say the same. One lemma per action
says what it keeps (`Inv.scan` to `Inv.read`), and `inv_of_run` carries them along a run.

Main statement: `run_history_consistent`. A reader is told that nothing has been generated
exactly when nothing was published before it, and is otherwise answered by the last publish
before it; the publishes carry generations `1, 2, 3, …` counted by the 64-bit count of scans;
every snapshot a scan returns was published. While fewer than `2^64` scans have taken the lock,
the count does not come round: the snapshot a scan publishes is numbered by the scans that took
the lock up to it, less those whose pipeline faulted; readers never see generations go back; and
two snapshots handed out with one generation are the same snapshot. A faulted scan is not
counted, so the scan that next takes the lock publishes the generation the faulted one would
have (`faultedScan_yields_generation`).
-/

namespace ApiSpec

namespace StoreEvent

/-- The snapshot an event publishes. -/
@[simp] def published? : StoreEvent → Option Snapshot
  | .published snap => some snap
  | _ => none

/-- The snapshot an event hands out: to one reader, to all readers, or to a scan's caller. -/
@[simp] def snapshot? : StoreEvent → Option Snapshot
  | .read (.ok snap) | .published snap | .returned _ snap => some snap
  | _ => none

/-- Whether a thread took the scan lock. -/
@[simp] def isLocked : StoreEvent → Bool
  | .locked _ => true
  | _ => false

/-- Whether a thread's pipeline faulted. -/
@[simp] def isFaulted : StoreEvent → Bool
  | .faulted _ => true
  | _ => false

end StoreEvent

/-- The snapshots the events publish, in order. -/
def publishedIn (es : List StoreEvent) : List Snapshot := es.filterMap StoreEvent.published?

@[simp] theorem publishedIn_nil : publishedIn [] = [] := rfl

@[simp] theorem publishedIn_append (es fs : List StoreEvent) :
    publishedIn (es ++ fs) = publishedIn es ++ publishedIn fs :=
  List.filterMap_append

@[simp] theorem publishedIn_singleton (e : StoreEvent) :
    publishedIn [e] = e.published?.toList := by
  cases e <;> simp [publishedIn]

theorem mem_publishedIn {es : List StoreEvent} {snap : Snapshot} :
    snap ∈ publishedIn es ↔ StoreEvent.published snap ∈ es := by
  constructor
  · intro h
    obtain ⟨e, he, hp⟩ := List.mem_filterMap.1 h
    cases e <;> simp_all
  · intro h
    exact List.mem_filterMap.2 ⟨_, h, rfl⟩

/-- The store as the events leave it for readers: one scan counted per publish, the last one
current. -/
def storeAfter (es : List StoreEvent) : Store :=
  ⟨UInt64.ofNat (publishedIn es).length, (publishedIn es).getLast?⟩

theorem current?_storeAfter_eq_error_iff {es : List StoreEvent} {msg : String} :
    (storeAfter es).current? = .error msg ↔ publishedIn es = [] ∧ msg = specNotGenerated := by
  cases h : (publishedIn es).getLast? with
  | none => simp [storeAfter, Store.current?, List.getLast?_eq_none_iff.1 h, eq_comm]
  | some snap =>
    have hne : publishedIn es ≠ [] := by
      rintro hnil
      simp [hnil] at h
    simp [storeAfter, Store.current?, h, hne]

theorem current?_storeAfter_eq_ok_iff {es : List StoreEvent} {snap : Snapshot} :
    (storeAfter es).current? = .ok snap ↔ (publishedIn es).getLast? = some snap := by
  cases h : (publishedIn es).getLast? <;> simp [storeAfter, Store.current?, h]

/-- A list of snapshots numbered `1, 2, …, n` by the 64-bit count. -/
def Numbered (l : List Snapshot) : Prop :=
  l.map (·.generation) = (List.range' 1 l.length).map UInt64.ofNat

theorem Numbered.append_singleton {l : List Snapshot} {snap : Snapshot} (h : Numbered l)
    (hsnap : snap.generation = UInt64.ofNat (l.length + 1)) : Numbered (l ++ [snap]) := by
  simp only [Numbered, List.map_append, List.map_cons, List.map_nil, List.length_append,
    List.length_singleton, List.range'_1_concat] at h ⊢
  rw [h, hsnap, Nat.add_comm]

theorem Numbered.of_append {l r : List Snapshot} (h : Numbered (l ++ r)) : Numbered l := by
  simp only [Numbered, List.map_append, List.length_append] at h
  rw [← List.range'_append_1, List.map_append] at h
  exact (List.append_inj h (by simp)).1

/-- The last snapshot of a numbered list is numbered by its length. -/
theorem Numbered.generation_getLast {l : List Snapshot} {snap : Snapshot} (h : Numbered l)
    (hl : l.getLast? = some snap) : snap.generation = UInt64.ofNat l.length := by
  obtain ⟨k, rfl⟩ := List.getLast?_eq_some_iff.1 hl
  have hmap := h
  simp only [Numbered, List.map_append, List.map_cons, List.map_nil, List.length_append,
    List.length_singleton, List.range'_1_concat] at hmap
  have := (List.append_inj hmap (by simp)).2
  simp only [List.cons.injEq, and_true] at this
  simp [this, Nat.add_comm]

/-- The 64-bit count tells apart the numbers below its modulus. -/
theorem ofNat_injOn_range' {n : Nat} (hn : n < UInt64.size) :
    ∀ x ∈ List.range' 1 n, ∀ y ∈ List.range' 1 n, UInt64.ofNat x = UInt64.ofNat y → x = y := by
  intro x hx y hy hxy
  have hx' : x < UInt64.size := by simp [List.mem_range'_1] at hx; omega
  have hy' : y < UInt64.size := by simp [List.mem_range'_1] at hy; omega
  rw [← UInt64.toNat_ofNat_of_lt' hx', ← UInt64.toNat_ofNat_of_lt' hy', hxy]

/-- Two snapshots of a numbered list with fewer than `2^64` snapshots and one generation are the
same: below the modulus the count does not come round again. -/
theorem Numbered.eq_of_generation_eq {l : List Snapshot} {a b : Snapshot} (h : Numbered l)
    (hl : l.length < UInt64.size) (ha : a ∈ l) (hb : b ∈ l) (hab : a.generation = b.generation) :
    a = b := by
  have hnodup : (l.map (·.generation)).Nodup := by
    rw [h]
    exact List.Nodup.map_on (ofNat_injOn_range' hl) List.nodup_range'
  exact List.inj_on_of_nodup_map hnodup ha hb hab

namespace ScanPhase

/-- Whether a thread at this phase holds the scan lock. -/
def holdsLock : ScanPhase → Bool
  | .generating _ _ | .publishing _ | .returning _ => true
  | _ => false

/-- Whether a thread at this phase holds the lock with its snapshot not yet published. -/
def unpublished : ScanPhase → Bool
  | .generating _ _ | .publishing _ => true
  | _ => false

end ScanPhase

namespace Store

/-- A scan whose pipeline succeeds counts itself, and numbers and publishes the snapshot it
returns by the new count. -/
theorem scan_eq_ok {s st : Store} {m : Manifest} {cfg : Config} {snap : Snapshot}
    (h : s.scan m cfg = some (.ok (st, snap))) :
    snap.generation = s.scans + 1 ∧ st = ⟨s.scans + 1, some snap⟩ := by
  obtain ⟨r, -, hr⟩ := Option.map_eq_some_iff.1 h
  cases r with
  | error f => cases hr
  | ok g =>
    simp only [Except.map, Except.ok.injEq, Prod.mk.injEq] at hr
    obtain ⟨rfl, rfl⟩ := hr
    exact ⟨rfl, rfl⟩

end Store

namespace SharedStore

variable {s s' : SharedStore} {t u : Nat} {p : ScanPhase} {m : Manifest} {cfg : Config}
  {e : Option StoreEvent} {es : List StoreEvent} {snap : Snapshot}

@[simp] theorem moveTo_store : (s.moveTo t p).store = s.store := rfl

@[simp] theorem moveTo_holder : (s.moveTo t p).holder = s.holder := rfl

@[simp] theorem moveTo_phase_self : (s.moveTo t p).phase t = some p := by simp [moveTo]

@[simp] theorem moveTo_phase_of_ne (h : u ≠ t) : (s.moveTo t p).phase u = s.phase u := by
  simp [moveTo, h]

/-- The phase of the thread holding the lock. -/
def held (s : SharedStore) : Option ScanPhase := s.holder.bind s.phase

theorem held_of_holder (h : s.holder = some t) : s.held = s.phase t := by simp [held, h]

theorem held_of_free (h : s.holder = none) : s.held = none := by simp [held, h]

theorem not_holdsLock_of_idle (h : s.idle t) (hp : s.phase t = some p) : p.holdsLock = false := by
  simp only [idle, hp] at h
  cases p <;> simp_all [ScanPhase.holdsLock]

/-! ## What one step can do -/

theorem step_scan (h : s.step (.scan t m cfg) = some (s', e)) :
    s.idle t ∧ s' = s.moveTo t (.waiting m cfg) ∧ e = none := by
  by_cases hi : s.idle t
  · simp only [step, hi, ↓reduceIte, Option.some.injEq, Prod.mk.injEq] at h
    exact ⟨hi, h.1.symm, h.2.symm⟩
  · simp [step, hi] at h

theorem step_lock (h : s.step (.lock t) = some (s', e)) :
    ∃ m cfg, s.phase t = some (.waiting m cfg) ∧ s.holder = none ∧
      s' = { s.moveTo t (.generating m cfg) with holder := some t } ∧ e = some (.locked t) := by
  simp only [step] at h
  split at h
  · next m cfg hp hh =>
    simp only [Option.some.injEq, Prod.mk.injEq] at h
    exact ⟨m, cfg, hp, hh, h.1.symm, h.2.symm⟩
  · cases h

theorem step_generate (h : s.step (.generate t) = some (s', e)) :
    ∃ m cfg, s.phase t = some (.generating m cfg) ∧
      ((∃ st snap, s.store.scan m cfg = some (.ok (st, snap)) ∧
          s' = { s.moveTo t (.publishing snap) with
            store := { s.store with scans := snap.generation } } ∧ e = none) ∨
        (∃ f, s.store.scan m cfg = some (.error f) ∧
          s' = { s.moveTo t .faulted with holder := none } ∧ e = some (.faulted t))) := by
  simp only [step] at h
  split at h
  · next m cfg hp =>
    refine ⟨m, cfg, hp, ?_⟩
    split at h
    · next st snap hscan =>
      simp only [Option.some.injEq, Prod.mk.injEq] at h
      exact .inl ⟨st, snap, hscan, h.1.symm, h.2.symm⟩
    · next f hscan =>
      simp only [Option.some.injEq, Prod.mk.injEq] at h
      exact .inr ⟨f, hscan, h.1.symm, h.2.symm⟩
    · cases h
  · cases h

theorem step_publish (h : s.step (.publish t) = some (s', e)) :
    ∃ snap, s.phase t = some (.publishing snap) ∧
      s' = { s.moveTo t (.returning snap) with store := { s.store with current := some snap } } ∧
      e = some (.published snap) := by
  simp only [step] at h
  split at h
  · next snap hp =>
    simp only [Option.some.injEq, Prod.mk.injEq] at h
    exact ⟨snap, hp, h.1.symm, h.2.symm⟩
  · cases h

theorem step_release (h : s.step (.release t) = some (s', e)) :
    ∃ snap, s.phase t = some (.returning snap) ∧
      s' = { s.moveTo t (.returned snap) with holder := none } ∧ e = some (.returned t snap) := by
  simp only [step] at h
  split at h
  · next snap hp =>
    simp only [Option.some.injEq, Prod.mk.injEq] at h
    exact ⟨snap, hp, h.1.symm, h.2.symm⟩
  · cases h

theorem step_read (h : s.step .read = some (s', e)) :
    s' = s ∧ e = some (.read s.store.current?) := by
  simp only [step, Option.some.injEq, Prod.mk.injEq] at h
  exact ⟨h.1.symm, h.2.symm⟩

theorem run_cons_eq_some {a : StoreAction} {as : List StoreAction} {s₂ : SharedStore}
    (h : s.run (a :: as) = some (s₂, es)) :
    ∃ s₁ e es', s.step a = some (s₁, e) ∧ s₁.run as = some (s₂, es') ∧
      es = e.toList ++ es' := by
  cases hs : s.step a with
  | none => simp [run, hs] at h
  | some r =>
    obtain ⟨s₁, e⟩ := r
    cases hr : s₁.run as with
    | none => simp [run, hs, hr] at h
    | some q =>
      obtain ⟨s₂', es'⟩ := q
      simp only [run, hs, hr, Option.bind_eq_bind, Option.bind_some, Option.pure_def,
        Option.some.injEq, Prod.mk.injEq] at h
      obtain ⟨rfl, rfl⟩ := h
      exact ⟨s₁, e, es', rfl, hr, rfl⟩

/-! ## The scan lock -/

/-- The scan lock is held by exactly the thread at a phase that holds it. -/
structure LockHeld (s : SharedStore) : Prop where
  holder_of_holds : ∀ t p, s.phase t = some p → p.holdsLock → s.holder = some t
  holds_of_holder : ∀ t, s.holder = some t → ∃ p, s.phase t = some p ∧ p.holdsLock

theorem lockHeld_initial : LockHeld initial where
  holder_of_holds := by simp [initial]
  holds_of_holder := by simp [initial]

namespace LockHeld

variable (hl : LockHeld s)
include hl

/-- A thread at a phase that holds the lock is the holder, and its phase is the held one. -/
theorem holder_of_phase (hp : s.phase t = some p) (hp' : p.holdsLock) :
    s.holder = some t ∧ s.held = some p := by
  have hholder := hl.holder_of_holds t p hp hp'
  exact ⟨hholder, by rw [held_of_holder hholder, hp]⟩

/-- Moving one thread to a new phase keeps the lock with the thread at a phase that holds it:
the thread takes the lock if the new phase holds it, gives it up if it held it, and otherwise
the holder stays. A thread takes the lock only when it is free or its own. -/
theorem moveTo (hph : s'.phase = (s.moveTo t p).phase)
    (hholder : s'.holder =
      if p.holdsLock then some t else if s.holder = some t then none else s.holder)
    (hfree : p.holdsLock → s.holder = none ∨ s.holder = some t) : LockHeld s' where
  holder_of_holds := by
    intro u q hq hq'
    by_cases hu : u = t
    · subst hu
      rw [hph, moveTo_phase_self, Option.some_inj] at hq
      subst hq
      simp [hholder, hq']
    · rw [hph, moveTo_phase_of_ne hu] at hq
      have hold := hl.holder_of_holds u q hq hq'
      cases hp : p.holdsLock
      · simp [hholder, hp, hold, hu]
      · rcases hfree hp with h | h <;> simp_all
  holds_of_holder := by
    intro u hu
    cases hp : p.holdsLock
    · by_cases ht : s.holder = some t
      · simp [hholder, hp, ht] at hu
      · simp only [hholder, hp, ht, Bool.false_eq_true, ↓reduceIte] at hu
        have hut : u ≠ t := fun h => ht (h ▸ hu)
        rw [hph, moveTo_phase_of_ne hut]
        exact hl.holds_of_holder u hu
    · simp only [hholder, hp, ↓reduceIte, Option.some.injEq] at hu
      subst hu
      exact ⟨p, by rw [hph, moveTo_phase_self], hp⟩

end LockHeld

/-! ## The invariant -/

/-- An event appended to a history is the only new occurrence: any other was there before. -/
private theorem eq_append_cons_of_append_singleton {α : Type} {es pre post : List α} {x y : α}
    (h : es ++ [y] = pre ++ x :: post) :
    (∃ post', es = pre ++ x :: post') ∨ (pre = es ∧ x = y) := by
  rcases List.eq_nil_or_concat post with rfl | ⟨post', z, rfl⟩
  · obtain ⟨hes, hy⟩ := List.append_inj' h rfl
    simp only [List.cons.injEq, and_true] at hy
    exact .inr ⟨hes.symm, hy.symm⟩
  · have h' : es ++ [y] = (pre ++ x :: post') ++ [z] := by simpa [List.concat_eq_append] using h
    exact .inl ⟨post', (List.append_inj' h' rfl).1⟩

/-- What holds of a shared store and the events it showed, in every run from the initial
store. -/
structure Inv (s : SharedStore) (es : List StoreEvent) : Prop where
  lockHeld : LockHeld s
  numbered : Numbered (publishedIn es)
  current_eq : s.store.current = (publishedIn es).getLast?
  /-- A counted snapshot not yet published is the next generation, -/
  counted : ∀ snap, s.held = some (.publishing snap) →
    s.store.scans = snap.generation ∧ snap.generation = UInt64.ofNat ((publishedIn es).length + 1)
  /-- and otherwise the count is the number of publishes. -/
  uncounted : (∀ snap, s.held ≠ some (.publishing snap)) →
    s.store.scans = UInt64.ofNat (publishedIn es).length
  returning : ∀ snap, s.held = some (.returning snap) → s.store.current = some snap
  /-- Each lock taken has ended in a fault or a publish, but for one still unpublished. -/
  locks : es.countP StoreEvent.isLocked =
    es.countP StoreEvent.isFaulted + (publishedIn es).length +
      (s.held.any ScanPhase.unpublished).toNat
  returned : ∀ t snap, StoreEvent.returned t snap ∈ es → snap ∈ publishedIn es
  reads : ∀ pre r post, es = pre ++ .read r :: post → r = (storeAfter pre).current?
  /-- A publish ends the one lock taken and not yet ended in a fault or a publish. -/
  publishes : ∀ pre snap post, es = pre ++ .published snap :: post →
    pre.countP StoreEvent.isLocked =
      pre.countP StoreEvent.isFaulted + (publishedIn pre).length + 1

namespace Inv

variable (hi : Inv s es)
include hi

/-- A read appended to the history answers as the fields on the past say; any other event
needs nothing. -/
theorem reads_append {ev : StoreEvent}
    (hev : ∀ r, ev = .read r → r = (storeAfter es).current?) :
    ∀ pre r post, es ++ [ev] = pre ++ .read r :: post → r = (storeAfter pre).current? := by
  intro pre r post h
  rcases eq_append_cons_of_append_singleton h with ⟨post', h'⟩ | ⟨rfl, hr⟩
  · exact hi.reads pre r post' h'
  · exact hev r hr.symm

theorem publishes_append {ev : StoreEvent}
    (hev : ∀ snap, ev = .published snap → es.countP StoreEvent.isLocked =
      es.countP StoreEvent.isFaulted + (publishedIn es).length + 1) :
    ∀ pre snap post, es ++ [ev] = pre ++ .published snap :: post →
      pre.countP StoreEvent.isLocked =
        pre.countP StoreEvent.isFaulted + (publishedIn pre).length + 1 := by
  intro pre snap post h
  rcases eq_append_cons_of_append_singleton h with ⟨post', h'⟩ | ⟨rfl, hp⟩
  · exact hi.publishes pre snap post' h'
  · exact hev snap hp.symm

theorem returned_append {ev : StoreEvent}
    (hev : ∀ t snap, ev = .returned t snap → snap ∈ publishedIn es) :
    ∀ t snap, StoreEvent.returned t snap ∈ es ++ [ev] →
      snap ∈ publishedIn (es ++ [ev]) := by
  intro t snap h
  rw [publishedIn_append]
  rcases List.mem_append.1 h with h | h
  · exact List.mem_append_left _ (hi.returned t snap h)
  · exact List.mem_append_left _ (hev t snap (List.mem_singleton.1 h).symm)

end Inv

theorem inv_initial : Inv initial [] where
  lockHeld := lockHeld_initial
  numbered := rfl
  current_eq := rfl
  counted := by simp [initial, held]
  uncounted := fun _ => rfl
  returning := by simp [initial, held]
  locks := by simp [initial, held]
  returned := by simp
  reads := by simp
  publishes := by simp

/-! ## What each action keeps -/

theorem Inv.scan (hi : Inv s es) (hidle : s.idle t) : Inv (s.moveTo t (.waiting m cfg)) es := by
  -- the scanning thread holds no lock, so the holder and its phase stay as they are
  have hne : s.holder ≠ some t := by
    intro hh
    obtain ⟨p, hp, hl⟩ := hi.lockHeld.holds_of_holder t hh
    rw [not_holdsLock_of_idle hidle hp] at hl
    cases hl
  have hheld : (s.moveTo t (.waiting m cfg)).held = s.held := by
    cases hh : s.holder with
    | none => simp [held, hh]
    | some u =>
      have hu : u ≠ t := fun hut => hne (hut ▸ hh)
      simp [held, hh, hu]
  refine ⟨hi.lockHeld.moveTo rfl (by simp [ScanPhase.holdsLock, hne])
      (by simp [ScanPhase.holdsLock]),
    hi.numbered, hi.current_eq, ?_, ?_, ?_, ?_, hi.returned, hi.reads, hi.publishes⟩
  · simpa [hheld] using hi.counted
  · simpa [hheld] using hi.uncounted
  · simpa [hheld] using hi.returning
  · simpa [hheld] using hi.locks

theorem Inv.lock (hi : Inv s es) (hfree : s.holder = none) :
    Inv { s.moveTo t (.generating m cfg) with holder := some t } (es ++ [.locked t]) := by
  have hheld : s.held = none := held_of_free hfree
  have hlocks := hi.locks
  simp only [hheld, Option.any_none, Bool.toNat_false, Nat.add_zero] at hlocks
  refine ⟨hi.lockHeld.moveTo rfl (by simp [ScanPhase.holdsLock]) (fun _ => .inl hfree),
    by simpa using hi.numbered, by simpa using hi.current_eq, ?_, ?_, ?_, ?_,
    hi.returned_append (by simp), hi.reads_append (by simp), hi.publishes_append (by simp)⟩
  · simp [held]
  · intro _
    simpa using hi.uncounted (by simp [hheld])
  · simp [held]
  · simp [List.countP_append, held, ScanPhase.unpublished, hlocks]

theorem Inv.generated (hi : Inv s es) (hp : s.phase t = some (.generating m cfg))
    {st : Store} (hscan : s.store.scan m cfg = some (.ok (st, snap))) :
    Inv { s.moveTo t (.publishing snap) with
      store := { s.store with scans := snap.generation } } es := by
  obtain ⟨hholder, hheld⟩ := hi.lockHeld.holder_of_phase hp rfl
  -- the pipeline counts the scan on top of the publishes so far
  have hgen : snap.generation = UInt64.ofNat ((publishedIn es).length + 1) := by
    rw [(Store.scan_eq_ok hscan).1, hi.uncounted (by simp [hheld]), UInt64.ofNat_add]
    rfl
  refine ⟨hi.lockHeld.moveTo rfl (by simp [ScanPhase.holdsLock, hholder]) (fun _ => .inr hholder),
    hi.numbered, hi.current_eq, ?_, ?_, ?_, ?_, hi.returned, hi.reads, hi.publishes⟩
  · intro snap' h
    simp only [held, hholder, moveTo_holder, Option.bind_some, moveTo_phase_self,
      Option.some.injEq, ScanPhase.publishing.injEq] at h
    subst h
    exact ⟨rfl, hgen⟩
  · intro h
    exact absurd (by simp [held, hholder]) (h snap)
  · simp [held, hholder]
  · simpa [held, hholder, hp, ScanPhase.unpublished] using hi.locks

theorem Inv.faulted (hi : Inv s es) (hp : s.phase t = some (.generating m cfg)) :
    Inv { s.moveTo t .faulted with holder := none } (es ++ [.faulted t]) := by
  obtain ⟨hholder, hheld⟩ := hi.lockHeld.holder_of_phase hp rfl
  have hlocks := hi.locks
  simp only [hheld, Option.any_some, ScanPhase.unpublished, Bool.toNat_true] at hlocks
  refine ⟨hi.lockHeld.moveTo rfl (by simp [ScanPhase.holdsLock, hholder])
      (by simp [ScanPhase.holdsLock]),
    by simpa using hi.numbered, by simpa using hi.current_eq, ?_, ?_, ?_, ?_,
    hi.returned_append (by simp), hi.reads_append (by simp), hi.publishes_append (by simp)⟩
  · simp [held]
  · intro _
    simpa using hi.uncounted (by simp [hheld])
  · simp [held]
  · -- the lock taken for this scan ended in the fault
    simp [List.countP_append, held]
    omega

theorem Inv.publish (hi : Inv s es) (hp : s.phase t = some (.publishing snap)) :
    Inv { s.moveTo t (.returning snap) with store := { s.store with current := some snap } }
      (es ++ [.published snap]) := by
  obtain ⟨hholder, hheld⟩ := hi.lockHeld.holder_of_phase hp rfl
  obtain ⟨hscans, hgen⟩ := hi.counted snap hheld
  have hlocks := hi.locks
  simp only [hheld, Option.any_some, ScanPhase.unpublished, Bool.toNat_true] at hlocks
  refine ⟨hi.lockHeld.moveTo rfl (by simp [ScanPhase.holdsLock, hholder]) (fun _ => .inr hholder),
    by simpa using hi.numbered.append_singleton hgen, by simp, ?_, ?_, ?_, ?_,
    hi.returned_append (by simp), hi.reads_append (by simp), hi.publishes_append ?_⟩
  · simp [held, hholder]
  · intro _
    simp [hscans, hgen]
  · simp [held, hholder]
  · simp [List.countP_append, held, hholder, ScanPhase.unpublished]
    omega
  · -- the new snapshot is numbered by the locks taken so far, less the faults
    intro snap' h
    simp only [StoreEvent.published.injEq] at h
    subst h
    omega

theorem Inv.release (hi : Inv s es) (hp : s.phase t = some (.returning snap)) :
    Inv { s.moveTo t (.returned snap) with holder := none } (es ++ [.returned t snap]) := by
  obtain ⟨hholder, hheld⟩ := hi.lockHeld.holder_of_phase hp rfl
  refine ⟨hi.lockHeld.moveTo rfl (by simp [ScanPhase.holdsLock, hholder])
      (by simp [ScanPhase.holdsLock]),
    by simpa using hi.numbered, by simpa using hi.current_eq, ?_, ?_, ?_, ?_,
    hi.returned_append ?_, hi.reads_append (by simp), hi.publishes_append (by simp)⟩
  · simp [held]
  · intro _
    simpa using hi.uncounted (by simp [hheld])
  · simp [held]
  · simpa [List.countP_append, held, hholder, hp, ScanPhase.unpublished] using hi.locks
  · -- the returned snapshot is the current one, so the last one published
    intro u snap' h
    simp only [StoreEvent.returned.injEq] at h
    obtain ⟨-, rfl⟩ := h
    have hcur := hi.returning snap hheld
    rw [hi.current_eq] at hcur
    exact List.mem_of_getLast? hcur

theorem Inv.read (hi : Inv s es) : Inv s (es ++ [.read s.store.current?]) := by
  refine ⟨hi.lockHeld, by simpa using hi.numbered, by simpa using hi.current_eq,
    by simpa using hi.counted, by simpa using hi.uncounted, hi.returning,
    by simpa [List.countP_append] using hi.locks, hi.returned_append (by simp),
    hi.reads_append ?_, hi.publishes_append (by simp)⟩
  · -- a reader is answered by the current snapshot, the last one published
    intro r h
    simp only [StoreEvent.read.injEq] at h
    subst h
    simp only [Store.current?, storeAfter, hi.current_eq]

/-! ## Along a run -/

theorem Inv.step (hi : Inv s es) {a : StoreAction} (h : s.step a = some (s', e)) :
    Inv s' (es ++ e.toList) := by
  cases a with
  | scan t m cfg =>
    obtain ⟨hidle, rfl, rfl⟩ := step_scan h
    simpa using hi.scan hidle
  | lock t =>
    obtain ⟨m, cfg, -, hfree, rfl, rfl⟩ := step_lock h
    exact hi.lock hfree
  | generate t =>
    obtain ⟨m, cfg, hp, ⟨st, snap, hscan, rfl, rfl⟩ | ⟨f, -, rfl, rfl⟩⟩ :=
      step_generate h
    · simpa using hi.generated hp hscan
    · exact hi.faulted hp
  | publish t =>
    obtain ⟨snap, hp, rfl, rfl⟩ := step_publish h
    exact hi.publish hp
  | release t =>
    obtain ⟨snap, hp, rfl, rfl⟩ := step_release h
    exact hi.release hp
  | read =>
    obtain ⟨rfl, rfl⟩ := step_read h
    exact hi.read

theorem Inv.run (hi : Inv s es) {as : List StoreAction} {es' : List StoreEvent}
    (h : s.run as = some (s', es')) : Inv s' (es ++ es') := by
  induction as generalizing s es es' with
  | nil =>
    simp only [SharedStore.run, Option.some.injEq, Prod.mk.injEq] at h
    obtain ⟨rfl, rfl⟩ := h
    simpa using hi
  | cons a as ih =>
    obtain ⟨s₁, e, es₁, hstep, hrun, rfl⟩ := run_cons_eq_some h
    simpa using ih (hi.step hstep) hrun

theorem inv_of_run {as : List StoreAction} (h : initial.run as = some (s, es)) : Inv s es := by
  simpa using inv_initial.run h

/-! ## What every run shows -/

@[simp] theorem publishedIn_cons (e : StoreEvent) (es : List StoreEvent) :
    publishedIn (e :: es) = e.published?.toList ++ publishedIn es := by
  rw [← List.singleton_append, publishedIn_append, publishedIn_singleton]

namespace Inv

variable (hi : Inv s es)
include hi

theorem numbered_of_eq_append {pre rest : List StoreEvent} (h : es = pre ++ rest) :
    Numbered (publishedIn pre) := by
  have hn := hi.numbered
  rw [h, publishedIn_append] at hn
  exact hn.of_append

/-- Each publish ends a lock taken, so there are no more publishes than locks. -/
theorem length_publishedIn_le : (publishedIn es).length ≤ es.countP StoreEvent.isLocked := by
  have := hi.locks
  omega

/-- A prefix of the history has no more publishes than the whole, and no more locks. -/
theorem prefix_counts_le {pre rest : List StoreEvent} (h : es = pre ++ rest) :
    (publishedIn pre).length ≤ (publishedIn es).length ∧
      pre.countP StoreEvent.isLocked ≤ es.countP StoreEvent.isLocked := by
  subst h
  simp [List.countP_append]

/-- A reader handed a snapshot is handed the last one published before it, whose generation
is the number of publishes so far. -/
theorem read_generation {pre post : List StoreEvent} {a : Snapshot}
    (h : es = pre ++ .read (.ok a) :: post) :
    (publishedIn pre).getLast? = some a ∧ a.generation = UInt64.ofNat (publishedIn pre).length := by
  have hlast := current?_storeAfter_eq_ok_iff.1 (hi.reads pre _ post h).symm
  exact ⟨hlast, (hi.numbered_of_eq_append h).generation_getLast hlast⟩

/-- The generation of a snapshot handed out after `pre`, read as a number, is the number of
publishes in `pre` while fewer than `2^64` scans have taken the lock. -/
theorem toNat_generation {pre rest : List StoreEvent} {a : Snapshot} (h : es = pre ++ rest)
    (hb : es.countP StoreEvent.isLocked < UInt64.size)
    (ha : a.generation = UInt64.ofNat (publishedIn pre).length) :
    a.generation.toNat = (publishedIn pre).length := by
  have hle := (hi.prefix_counts_le h).1
  have := hi.length_publishedIn_le
  rw [ha, UInt64.toNat_ofNat_of_lt' (by omega)]

theorem reads_monotone {pre mid post : List StoreEvent} {r₁ r₂ : Except String Snapshot}
    (hb : es.countP StoreEvent.isLocked < UInt64.size)
    (h : es = pre ++ .read r₁ :: (mid ++ .read r₂ :: post)) {a : Snapshot} (ha : r₁ = .ok a) :
    ∃ b, r₂ = .ok b ∧ a.generation ≤ b.generation := by
  subst ha
  obtain ⟨hlast, hgen⟩ := hi.read_generation h
  -- the later reader comes after every publish the earlier one saw
  have h₂ : es = (pre ++ .read (.ok a) :: mid) ++ .read r₂ :: post := by simp [h]
  have hpubs : publishedIn (pre ++ .read (.ok a) :: mid) = publishedIn pre ++ publishedIn mid := by
    simp
  obtain ⟨b, hb'⟩ : ∃ b, (publishedIn (pre ++ .read (.ok a) :: mid)).getLast? = some b := by
    rw [hpubs, List.getLast?_append, hlast]
    cases (publishedIn mid).getLast? <;> simp
  have hr₂ : r₂ = .ok b := by
    rw [hi.reads _ r₂ post h₂]
    exact current?_storeAfter_eq_ok_iff.2 hb'
  subst hr₂
  obtain ⟨-, hgen₂⟩ := hi.read_generation h₂
  refine ⟨b, rfl, ?_⟩
  -- below the modulus the generations are the counts of publishes, and those only grow
  rw [UInt64.le_iff_toNat_le, hi.toNat_generation h hb hgen, hi.toNat_generation h₂ hb hgen₂,
    hpubs, List.length_append]
  exact Nat.le_add_right _ _

/-- While fewer than `2^64` scans have taken the lock, a publish is numbered by the locks taken
up to it, less the faults. -/
theorem publishes_toNat {pre post : List StoreEvent} {snap : Snapshot}
    (hb : es.countP StoreEvent.isLocked < UInt64.size)
    (h : es = pre ++ .published snap :: post) :
    snap.generation.toNat + pre.countP StoreEvent.isFaulted = pre.countP StoreEvent.isLocked := by
  -- the snapshot is the last one published up to and including it
  have h' : es = (pre ++ [.published snap]) ++ post := by simp [h]
  have hgen : snap.generation = UInt64.ofNat (publishedIn (pre ++ [.published snap])).length :=
    (hi.numbered_of_eq_append h').generation_getLast (by simp)
  have hlen : (publishedIn (pre ++ [.published snap])).length = (publishedIn pre).length + 1 := by
    simp
  have hlocks := hi.publishes pre snap post h
  have hpre := (hi.prefix_counts_le h).2
  rw [hgen, hlen, UInt64.toNat_ofNat_of_lt' (by omega)]
  omega

/-- Every snapshot handed out was published. -/
theorem mem_publishedIn_of_handed_out {ev : StoreEvent} (hev : ev ∈ es) {a : Snapshot}
    (ha : a ∈ ev.snapshot?) : a ∈ publishedIn es := by
  cases ev with
  | read r =>
    cases r with
    | error msg => simp at ha
    | ok a' =>
      simp only [StoreEvent.snapshot?, Option.mem_def, Option.some.injEq] at ha
      subst ha
      obtain ⟨pre, post, h⟩ := List.append_of_mem hev
      have hmem := List.mem_of_getLast? (hi.read_generation h).1
      rw [h, publishedIn_append]
      exact List.mem_append_left _ hmem
  | published snap =>
    simp only [StoreEvent.snapshot?, Option.mem_def, Option.some.injEq] at ha
    subst ha
    exact mem_publishedIn.2 hev
  | returned t snap =>
    simp only [StoreEvent.snapshot?, Option.mem_def, Option.some.injEq] at ha
    subst ha
    exact hi.returned t _ hev
  | locked t => simp at ha
  | faulted t => simp at ha

end Inv

/-- What the events of a run show. The count of scans is a 64-bit counter, so generations are
numbers modulo `2^64`; while fewer than `2^64` scans have taken the lock, they are the counts
themselves. -/
structure ConsistentHistory (es : List StoreEvent) : Prop where
  /-- A reader is told that nothing has been generated exactly when nothing was published
  before it, -/
  reads_unpublished : ∀ pre r post, es = pre ++ .read r :: post →
    (r = .error specNotGenerated ↔ publishedIn pre = [])
  /-- and is otherwise handed the last snapshot published before it. -/
  reads_last : ∀ pre r post, es = pre ++ .read r :: post →
    ∀ a, r = .ok a ↔ (publishedIn pre).getLast? = some a
  /-- The publishes carry generations `1, 2, 3, …`, modulo `2^64`. -/
  numbered : Numbered (publishedIn es)
  /-- A scan returns a published snapshot. -/
  returned_published :
    ∀ t snap, StoreEvent.returned t snap ∈ es → StoreEvent.published snap ∈ es
  /-- With fewer than `2^64` scans taking the lock: a publish is numbered by the scans that took
  the lock up to it, less those whose pipeline faulted; -/
  publishes : es.countP StoreEvent.isLocked < UInt64.size →
    ∀ pre snap post, es = pre ++ .published snap :: post →
      snap.generation.toNat + pre.countP StoreEvent.isFaulted = pre.countP StoreEvent.isLocked
  /-- a reader after one handed a snapshot is handed one of no older generation; -/
  reads_monotone : es.countP StoreEvent.isLocked < UInt64.size →
    ∀ pre r₁ mid r₂ post, es = pre ++ .read r₁ :: (mid ++ .read r₂ :: post) →
      ∀ a, r₁ = .ok a → ∃ b, r₂ = .ok b ∧ a.generation ≤ b.generation
  /-- and snapshots handed out with one generation are one snapshot. -/
  handed_out_unique : es.countP StoreEvent.isLocked < UInt64.size →
    ∀ e₁ ∈ es, ∀ e₂ ∈ es, ∀ a ∈ e₁.snapshot?, ∀ b ∈ e₂.snapshot?,
      a.generation = b.generation → a = b

/-- Every run of scans and readers from the initial store, in any interleaving, shows a
consistent history. -/
theorem run_history_consistent {as : List StoreAction} (h : initial.run as = some (s, es)) :
    ConsistentHistory es := by
  have hi := inv_of_run h
  refine ⟨?_, ?_, hi.numbered, ?_, ?_, ?_, ?_⟩
  · intro pre r post hsplit
    rw [hi.reads pre r post hsplit, current?_storeAfter_eq_error_iff]
    simp
  · intro pre r post hsplit a
    rw [hi.reads pre r post hsplit]
    exact current?_storeAfter_eq_ok_iff
  · intro t snap hret
    exact mem_publishedIn.1 (hi.returned t snap hret)
  · intro hb pre snap post hsplit
    exact hi.publishes_toNat hb hsplit
  · intro hb pre r₁ mid r₂ post hsplit a ha
    exact hi.reads_monotone hb hsplit ha
  · intro hb e₁ he₁ e₂ he₂ a ha b hb' hab
    have hlen := hi.length_publishedIn_le
    exact hi.numbered.eq_of_generation_eq (by omega) (hi.mem_publishedIn_of_handed_out he₁ ha)
      (hi.mem_publishedIn_of_handed_out he₂ hb') hab

/-! ## One scan alone -/

/-- A scan that runs alone, with its pipeline succeeding, leaves the store as `Store.scan`
does, and publishes and returns its snapshot. -/
theorem run_scan_alone {st : Store} (hidle : s.idle t) (hfree : s.holder = none)
    (hscan : s.store.scan m cfg = some (.ok (st, snap))) :
    (s.run [.scan t m cfg, .lock t, .generate t, .publish t, .release t]).map
        (fun r => (r.1.store, r.1.holder, r.2)) =
      some (st, none, [.locked t, .published snap, .returned t snap]) := by
  obtain ⟨hgen, rfl⟩ := Store.scan_eq_ok hscan
  simp [run, step, hidle, hfree, hscan, hgen]

/-- A scan that runs alone, with its pipeline faulting, leaves the store as it was and returns
nothing. -/
theorem run_scan_faulted {f : StripFault} (hidle : s.idle t) (hfree : s.holder = none)
    (hscan : s.store.scan m cfg = some (.error f)) :
    (s.run [.scan t m cfg, .lock t, .generate t]).map (fun r => (r.1.store, r.1.holder, r.2)) =
      some (s.store, none, [.locked t, .faulted t]) := by
  simp [run, step, hidle, hfree, hscan]

end SharedStore

/-! ## Two threads -/

/-- An event with its snapshot shown by its generation. -/
inductive EventOutline where
  | read (generation : Option Nat)
  | locked (t : Nat)
  | published (generation : Nat)
  | returned (t generation : Nat)
  | faulted (t : Nat)
  deriving DecidableEq

/-- The outline of an event. -/
def StoreEvent.outline : StoreEvent → EventOutline
  | .read r => .read (r.toOption.map (·.generation.toNat))
  | .locked t => .locked t
  | .published snap => .published snap.generation.toNat
  | .returned t snap => .returned t snap.generation.toNat
  | .faulted t => .faulted t

/-- `UsersController` with a `list` route, in the source file `path`. -/
def usersAt (path : String) : Manifest :=
  ⟨[{ path := path, enums := [], modules := [],
      classes := [
        { name := "UsersController", docs := none, typeParams := [], properties := [],
          annotations := [⟨"Controller", [.literal "users"]⟩],
          methods := [⟨"list", none, [⟨"Get", []⟩], [], none⟩] }] }]⟩

/-- Two threads scan the users model in turn, with readers before, between and after. -/
def usersTwice : List StoreAction :=
  let m := usersAt "src/users/users_controller.rs"
  [.read, .scan 0 m Config.standard, .scan 1 m Config.standard, .lock 0, .generate 0, .read,
    .publish 0, .read, .release 0, .lock 1, .generate 1, .read, .publish 1, .release 1, .read]

theorem usersTwice_history_consistent :
    ∃ s es, SharedStore.initial.run usersTwice = some (s, es) ∧
      SharedStore.ConsistentHistory es := by
  obtain ⟨⟨s, es⟩, h⟩ := Option.isSome_iff_exists.1
    (by decide +kernel : (SharedStore.initial.run usersTwice).isSome)
  exact ⟨s, es, h, SharedStore.run_history_consistent h⟩

example : (SharedStore.initial.run usersTwice).map (·.2.map StoreEvent.outline) =
    some [.read none, .locked 0, .read none, .published 1, .read (some 1), .returned 0 1,
      .locked 1, .read (some 1), .published 2, .returned 1 2, .read (some 2)] := by
  decide +kernel

/-- The first thread scans with a source root whose first character is multi-byte and recurs
in the file's path, so its pipeline faults; the second scans with the standard
configuration. -/
def faultThenScan : List StoreAction :=
  let m := usersAt "src/aé/users/users_controller.rs"
  [.scan 0 m { Config.standard with sourceRoot := some "é" }, .scan 1 m Config.standard,
    .lock 0, .generate 0, .lock 1, .generate 1, .publish 1, .release 1, .read]

/-- The first scan to take the lock faults and returns nothing; the second publishes and
returns generation 1, which readers then see. -/
theorem faultedScan_yields_generation :
    (SharedStore.initial.run faultThenScan).map (·.2.map StoreEvent.outline) =
      some [.locked 0, .faulted 0, .locked 1, .published 1, .returned 1 1, .read (some 1)] := by
  decide +kernel

end ApiSpec
