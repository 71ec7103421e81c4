import Alerting.Proofs.Store.Merge
import Mathlib.Logic.Function.Basic

/-!
# Snapshots of a store

A store that is restored from the records of another one, in whatever order they come, and
a copy of it are both that store at the start of a run. From the next run on nobody can tell
the three apart: they give the same answers to the same requests and end as the same store.
They are three stores nevertheless, and none of them notices what is asked of the others.
-/

namespace Alerting

/-- What a store can be asked to do or to tell. -/
inductive Request where
  | newRun
  | raise (namespaceName : String) (alert : AlertId) (tags : Tags) (new : Severity)
      (now : Instant)
  | raiseById (id : EntityId) (new : Severity) (now : Instant)
  | see (namespaceName : String) (alert : AlertId) (tags : Tags) (seen : Instant)
  | put (entry : EntityRecord)
  | detect (limit : StalenessLimit) (now : Instant)
  | purge (cutoff : Instant)
  | records

/-- What a store answers. -/
inductive Answer where
  | done
  | change (change : StateChange)
  | entity (id : EntityId)
  | missing (entities : List MissingEntity)
  | removed (count : Nat)
  | records (entries : List EntityRecord)

namespace Request

/-- The answer to a request, and the store after it. -/
def serve (store : Store) : Request → Answer × Store
  | .newRun => (.done, store.newRun)
  | .raise namespaceName alert tags new now =>
    (store.raise (entityId namespaceName alert tags) new now).map .change id
  | .raiseById entity new now => (store.raise entity new now).map .change id
  | .see namespaceName alert tags seen =>
    let entity := entityId namespaceName alert tags
    (.entity entity, store.see entity tags seen)
  | .put entry => (.done, store.put entry)
  | .detect limit now => (limit.detect store now).map .missing id
  | .purge cutoff => (store.purge cutoff).map .removed id
  | .records => (.records store.records, store)

/-- The answers to requests that are made one after the other, and the store after them. -/
def serveAll (store : Store) : List Request → List Answer × Store
  | [] => ([], store)
  | request :: rest =>
    let (answer, store) := request.serve store
    let (answers, store) := serveAll store rest
    (answer :: answers, store)

/-! ## Several stores -/

section Several

variable {ι : Type} [DecidableEq ι]

/-- Requests to several stores, one after the other: who answered what, and the stores
after them. -/
def serveEach (stores : ι → Store) : List (ι × Request) → List (ι × Answer) × (ι → Store)
  | [] => ([], stores)
  | (asked, request) :: rest =>
    let (answer, store) := request.serve (stores asked)
    let (answers, stores) := serveEach (Function.update stores asked store) rest
    ((asked, answer) :: answers, stores)

/-- Of messages to or from several stores, those of one of them, in their order. -/
def ofOne {α : Type} (one : ι) (messages : List (ι × α)) : List α :=
  messages.filterMap fun message => if message.1 = one then some message.2 else none

/-- Among several stores, each answers and changes as if it were alone with its requests. -/
theorem serveEach_ofOne (stores : ι → Store) (requests : List (ι × Request)) (one : ι) :
    (ofOne one (serveEach stores requests).1, (serveEach stores requests).2 one) =
      serveAll (stores one) (ofOne one requests) := by
  induction requests generalizing stores with
  | nil => rfl
  | cons first rest ih =>
    rcases first with ⟨asked, request⟩
    have others := ih (Function.update stores asked (request.serve (stores asked)).2)
    rw [Prod.ext_iff] at others ⊢
    by_cases here : asked = one
    · subst here
      rw [Function.update_self] at others
      simp only [serveEach, ofOne, List.filterMap_cons, if_true, serveAll]
      exact ⟨congrArg _ others.1, others.2⟩
    · rw [Function.update_of_ne (Ne.symm here)] at others
      simp only [serveEach, ofOne, List.filterMap_cons, here, if_false]
      exact others

end Several

end Request

/-! ## A store and its snapshots -/

/-- A store, the one that is restored from its records, and its copy. -/
inductive Holder where
  | original
  | restored
  | copied
  deriving DecidableEq

namespace Store

/-- In any order, the records of a store hold at most one account of each entity. -/
theorem about_of_perm_records (store : Store) {entries : List EntityRecord}
    (snapshot : entries.Perm store.records) (id : EntityId) :
    EntityRecord.about id entries = EntityRecord.about id store.records := by
  have perm := snapshot.filter fun entry => decide (entry.entity = id)
  have account := store.filter_records id
  cases held : store.entities.get? id with
  | none =>
    rw [held] at account
    rw [account] at perm
    exact perm.eq_nil.trans account.symm
  | some entity =>
    rw [held] at account
    rw [account] at perm
    exact (List.perm_singleton.1 perm).trans account.symm

/-- A new store with the same settings that takes over all records, in any order, is the old
one at the start of a run. -/
theorem restore_of_perm_records (store : Store) {entries : List EntityRecord}
    (snapshot : entries.Perm store.records) :
    (empty store.config store.policy).restore entries = store.newRun :=
  (restore_congr _ (store.about_of_perm_records snapshot)).trans store.restore_records

/-- A store beside the one restored from a snapshot of its records and its copy. -/
def withSnapshots (store : Store) (snapshot : List EntityRecord) : Holder → Store
  | .original => store
  | .restored => (empty store.config store.policy).restore snapshot
  | .copied => store.copy

/--
A store, a new one with the same settings that took over its records in any order, and its
copy. Asked alike from the start of a run on, all three give the same answers and end as the
same store. Whatever is asked of them in turn, the first answers and changes as if it had
been asked its own requests only, so not at all if it was asked nothing.
-/
theorem snapshots_are_invisible (store : Store) {entries : List EntityRecord}
    (snapshot : entries.Perm store.records) :
    (∀ (holder : Holder) (requests : List Request),
      Request.serveAll (store.withSnapshots entries holder) (.newRun :: requests) =
        Request.serveAll store (.newRun :: requests)) ∧
    ∀ requests : List (Holder × Request),
      let served := Request.serveEach (store.withSnapshots entries) requests
      (Request.ofOne .original served.1, served.2 .original) =
          Request.serveAll store (Request.ofOne .original requests) ∧
        ((∀ request ∈ requests, request.1 ≠ .original) → served.2 .original = store) := by
  constructor
  · intro holder requests
    have begins : (store.withSnapshots entries holder).newRun = store.newRun := by
      cases holder with
      | original => rfl
      | restored =>
        rw [withSnapshots, store.restore_of_perm_records snapshot]
        rfl
      | copied => rfl
    simp only [Request.serveAll, Request.serve, begins]
  · intro requests served
    have alone := Request.serveEach_ofOne (store.withSnapshots entries) requests .original
    refine ⟨alone, fun elsewhere => ?_⟩
    have unasked : Request.ofOne .original requests = [] := by
      rw [Request.ofOne, List.filterMap_eq_nil_iff]
      intro request member
      exact if_neg (elsewhere request member)
    rw [unasked] at alone
    exact congrArg Prod.snd alone

/-- A sparse record, an entity that was never seen, and a repeat that falls due later; the
records are taken over backwards, and the copy is asked something of its own. -/
theorem snapshots_are_invisible_sparse :
    let store := (((empty ⟨.every 60, true⟩ TransitionRules.unhealthyOnly.policy).put
      { entity := 2, lastSeen := some 900 }).raise 1 .bad 1000).2
    let entries := store.records.reverse
    let requests : List Request := [.raiseById 1 .bad 1061, .purge 950]
    entries.Perm store.records ∧
      Request.serveAll (store.withSnapshots entries .restored) (.newRun :: requests) =
        Request.serveAll store (.newRun :: requests) ∧
      (Request.serveAll store (.newRun :: requests)).1 =
        [.done, .change ⟨.good, .bad, true, true⟩, .removed 1] ∧
      (Request.serveEach (store.withSnapshots entries) [(.copied, .purge 950)]).2 .original =
        store := by
  intro store entries requests
  have snapshot : entries.Perm store.records := List.reverse_perm _
  rcases snapshots_are_invisible store snapshot with ⟨alike, apart⟩
  have answers : (Request.serveAll store (.newRun :: requests)).1 =
      [.done, .change ⟨.good, .bad, true, true⟩, .removed 1] := by
    rfl
  exact ⟨snapshot, alike .restored requests, answers, (apart [(.copied, .purge 950)]).2 (by simp)⟩

end Store

end Alerting
