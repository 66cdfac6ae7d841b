import DeviceChannels.Deletion.Task
import DeviceChannels.Proofs.Removal
import Mathlib.Data.List.Basic

/-! Operations on a store that fail. They leave the store as it is, and a run without them goes on as
the run does with them. Deletions whose task fails are the only difference: left out, they stay
under way, and nothing comes of them. -/

namespace DeviceChannels

namespace Store

variable {s : Store} {id : String}

theorem refresh_of_ok {file : FileState} {read : List Channel} (h : s.readAnew file = .ok read) :
    s.refresh file = (.ok (s.publish read).channels, s.publish read) := by
  simp [refresh, h]

theorem refresh_of_error {file : FileState} {fault : StoreFault}
    (h : s.readAnew file = .error fault) : s.refresh file = (.error fault, s) := by
  simp [refresh, h]

theorem delete_of_some {c : Channel} (h : s.find? id = some c) :
    s.delete id = (.ok ⟨c.id, c.name⟩, (s.removeContent id).2) := by
  simp [delete, removeContent_of_some h, Channel.withoutContent]

theorem delete_of_none (h : s.find? id = none) :
    s.delete id = (.error (.unknownChannel id), s) := by
  simp [delete, removeContent_of_none h, DeletionFault.ofStore]

end Store

/-- A store with the refreshes and deletions under way. Each has the number in which it was started;
once it is done, nothing is left at its number. -/
structure Service where
  store : Store
  /-- What refreshes have read and not published yet. -/
  refreshes : List (Option (List Channel)) := []
  deletions : List (Option String) := []

namespace Service

inductive Operation
  | refresh (file : FileState)
  /-- A refresh that has other operations between its reading and its publication. -/
  | beginRefresh (file : FileState)
  | endRefresh (n : Nat)
  | remove (id : String)
  | trigger (runtime : Bool) (id : String)
  /-- The task of a deletion runs. -/
  | carryOut (n : Nat)

inductive Answer
  | refreshed (result : Except StoreFault (List Channel))
  /-- The refresh has read and is under way. -/
  | begun
  | removed (result : Except StoreFault Channel)
  | triggered (result : Except DeletionFault Completion)
  | deleted (result : DeletionResult)
  /-- There was nothing to go on with. -/
  | nothing

def Answer.succeeded : Answer → Bool
  | .refreshed (.ok _) | .begun | .removed (.ok _) | .triggered (.ok _) | .deleted (.ok _) => true
  | .refreshed (.error _) | .removed (.error _) | .triggered (.error _) | .deleted (.error _)
  | .nothing => false

/-- The answer is that of a refresh or a removal that succeeded. -/
def Answer.publishes : Answer → Bool
  | .refreshed (.ok _) | .removed (.ok _) | .deleted (.ok _) => true
  | _ => false

def perform (s : Service) : Operation → Answer × Service
  | .refresh file =>
    let (result, store) := s.store.refresh file
    (.refreshed result, { s with store })
  | .beginRefresh file =>
    match s.store.readAnew file with
    | .ok read => (.begun, { s with refreshes := s.refreshes ++ [some read] })
    | .error fault => (.refreshed (.error fault), s)
  | .endRefresh n =>
    match s.refreshes[n]? with
    | some (some read) =>
      let store := s.store.publish read
      (.refreshed (.ok store.channels), { s with store, refreshes := s.refreshes.set n none })
    | _ => (.nothing, s)
  | .remove id =>
    let (result, store) := s.store.removeContent id
    (.removed result, { s with store })
  | .trigger runtime id =>
    match (if runtime then Trigger.onStore else Trigger.unavailable) [] id with
    | .ok completion =>
      (.triggered (.ok completion),
        { s with deletions := s.deletions ++ [some completion.channelId] })
    | .error fault => (.triggered (.error fault), s)
  | .carryOut n =>
    match s.deletions[n]? with
    | some (some id) =>
      let (result, store) := s.store.delete id
      (.deleted result, { s with store, deletions := s.deletions.set n none })
    | _ => (.nothing, s)

def run (s : Service) (ops : List Operation) : Service :=
  ops.foldl (fun s op => (s.perform op).2) s

/-- The answers of a run, each with the store after the operation. -/
def history (s : Service) : List Operation → List (Answer × Store)
  | [] => []
  | op :: ops =>
    let (answer, s) := s.perform op
    (answer, s.store) :: s.history ops

/-- The operations of a run that succeed in it. -/
def effective (s : Service) : List Operation → List Operation
  | [] => []
  | op :: ops =>
    let (answer, s) := s.perform op
    if answer.succeeded then op :: s.effective ops else s.effective ops

/-- The deletions under way in `ds'` are so in `ds`, under the same numbers. -/
structure StillDue (ds ds' : List (Option String)) : Prop where
  length : ds.length = ds'.length
  due : ∀ (n : Nat) (id : String), ds'[n]? = some (some id) → ds[n]? = some (some id)

namespace StillDue

variable {ds ds' ds'' : List (Option String)}

theorem refl (ds : List (Option String)) : StillDue ds ds := ⟨rfl, fun _ _ h => h⟩

theorem trans (h : StillDue ds ds') (h' : StillDue ds' ds'') : StillDue ds ds'' :=
  ⟨h.length.trans h'.length, fun n id hn => h.due n id (h'.due n id hn)⟩

theorem concat (h : StillDue ds ds') (id : String) :
    StillDue (ds ++ [some id]) (ds' ++ [some id]) where
  length := by simp [h.length]
  due n other hn := by
    rw [List.getElem?_append] at hn ⊢
    rw [h.length]
    by_cases hlt : n < ds'.length
    · rw [if_pos hlt] at hn ⊢
      exact h.due n other hn
    · rw [if_neg hlt] at hn ⊢
      exact hn

theorem set (h : StillDue ds ds') (n : Nat) : StillDue (ds.set n none) (ds'.set n none) where
  length := by simp [h.length]
  due m other hm := by
    rw [List.getElem?_set] at hm ⊢
    by_cases he : n = m
    · rw [if_pos he] at hm
      split at hm <;> simp at hm
    · rw [if_neg he] at hm ⊢
      exact h.due m other hm

theorem of_set (ds : List (Option String)) (n : Nat) : StillDue ds (ds.set n none) where
  length := by simp
  due m other hm := by
    rw [List.getElem?_set] at hm
    by_cases he : n = m
    · rw [if_pos he] at hm
      split at hm <;> simp at hm
    · rwa [if_neg he] at hm

end StillDue

variable {s : Service} {op : Operation}

theorem Answer.succeeded_of_publishes {answer : Answer} (h : answer.publishes = true) :
    answer.succeeded = true := by
  cases answer with
  | refreshed result | removed result | deleted result =>
    cases result with
    | ok _ => rfl
    | error _ => cases h
  | begun | triggered _ | nothing => cases h

/-- What an operation can do to the service, told by its answer. -/
inductive Effect (s : Service) (answer : Answer) (s' : Service) : Prop
  | published (publishes : answer.publishes = true)
      (versions : s'.store.versions = s.store.versions + 1)
  | started (succeeded : answer.succeeded = true) (silent : answer.publishes = false)
      (store : s'.store = s.store)
  | failed (failed : answer.succeeded = false) (ds : List (Option String))
      (due : StillDue s.deletions ds) (rest : s' = { s with deletions := ds })

theorem Effect.same {answer : Answer} (h : answer.succeeded = false) : Effect s answer s :=
  .failed h s.deletions (.refl _) rfl

theorem effect_perform (s : Service) (op : Operation) :
    Effect s (s.perform op).1 (s.perform op).2 := by
  cases op with
  | refresh file =>
    cases hr : s.store.readAnew file with
    | ok read =>
      simp only [perform, Store.refresh_of_ok hr]
      exact .published rfl rfl
    | error fault =>
      simp only [perform, Store.refresh_of_error hr]
      exact .same rfl
  | beginRefresh file =>
    cases hr : s.store.readAnew file with
    | ok read =>
      simp only [perform, hr]
      exact .started rfl rfl rfl
    | error fault =>
      simp only [perform, hr]
      exact .same rfl
  | endRefresh n =>
    rcases hn : s.refreshes[n]? with _ | _ | read <;> simp only [perform, hn]
    · exact .same rfl
    · exact .same rfl
    · exact .published rfl rfl
  | remove id =>
    cases hf : s.store.find? id with
    | some c =>
      simp only [perform, Store.removeContent_of_some hf]
      exact .published rfl rfl
    | none =>
      simp only [perform, Store.removeContent_of_none hf]
      exact .same rfl
  | trigger runtime id =>
    cases runtime with
    | true => exact .started rfl rfl rfl
    | false => exact .same rfl
  | carryOut n =>
    rcases hn : s.deletions[n]? with _ | _ | id
    · simp only [perform, hn]
      exact .same rfl
    · simp only [perform, hn]
      exact .same rfl
    · cases hf : s.store.find? id with
      | some c =>
        simp only [perform, hn, Store.delete_of_some hf, Store.removeContent_of_some hf]
        exact .published rfl rfl
      | none =>
        simp only [perform, hn, Store.delete_of_none hf]
        exact .failed rfl _ (.of_set s.deletions n) rfl

theorem Effect.versions_eq {answer : Answer} {s' : Service} (h : Effect s answer s') :
    s'.store.versions = s.store.versions + if answer.publishes then 1 else 0 := by
  cases h with
  | published publishes versions => rw [versions, if_pos publishes]
  | started _ silent store => simp [store, silent]
  | failed failed ds _ rest =>
    have silent : answer.publishes = false := by
      cases hp : answer.publishes with
      | false => rfl
      | true => exact absurd (Answer.succeeded_of_publishes hp) (by simp [failed])
    simp [rest, silent]

theorem Effect.store_eq {answer : Answer} {s' : Service} (h : Effect s answer s')
    (hf : answer.succeeded = false) : s'.store = s.store := by
  cases h with
  | published publishes _ => exact absurd (Answer.succeeded_of_publishes publishes) (by simp [hf])
  | started succeeded _ _ => exact absurd succeeded (by simp [hf])
  | failed _ ds _ rest => rw [rest]

/-- With more deletions under way, an operation that succeeds does the same. -/
theorem perform_of_succeeded {ds : List (Option String)} (hd : StillDue ds s.deletions)
    (h : (s.perform op).1.succeeded = true) :
    ∃ ds', StillDue ds' (s.perform op).2.deletions ∧ { s with deletions := ds }.perform op =
      ((s.perform op).1, { (s.perform op).2 with deletions := ds' }) := by
  cases op with
  | refresh file => exact ⟨ds, hd, rfl⟩
  | beginRefresh file =>
    cases hr : s.store.readAnew file with
    | ok read => exact ⟨ds, by simpa [perform, hr] using hd, by simp [perform, hr]⟩
    | error fault => simp [perform, hr, Answer.succeeded] at h
  | endRefresh n =>
    rcases hn : s.refreshes[n]? with _ | _ | read
    · simp [perform, hn, Answer.succeeded] at h
    · simp [perform, hn, Answer.succeeded] at h
    · exact ⟨ds, by simpa [perform, hn] using hd, by simp [perform, hn]⟩
  | remove id => exact ⟨ds, hd, rfl⟩
  | trigger runtime id =>
    cases runtime with
    | true => exact ⟨ds ++ [some id], hd.concat id, rfl⟩
    | false => simp [perform, Trigger.unavailable, Answer.succeeded] at h
  | carryOut n =>
    rcases hn : s.deletions[n]? with _ | _ | id
    · simp [perform, hn, Answer.succeeded] at h
    · simp [perform, hn, Answer.succeeded] at h
    · have hn' : ds[n]? = some (some id) := hd.due n id hn
      exact ⟨ds.set n none, by simpa [perform, hn] using hd.set n, by simp [perform, hn, hn']⟩

theorem history_effective {ds : List (Option String)} (hd : StillDue ds s.deletions)
    (ops : List Operation) :
    { s with deletions := ds }.history (s.effective ops) =
      (s.history ops).filter fun e => e.1.succeeded := by
  induction ops generalizing s ds with
  | nil => rfl
  | cons op ops ih =>
    cases h : (s.perform op).1.succeeded with
    | true =>
      obtain ⟨ds', hd', hp⟩ := perform_of_succeeded hd h
      simp only [effective, history, h, if_true, List.filter_cons, hp, ih hd']
    | false =>
      cases s.effect_perform op with
      | published publishes _ =>
        exact absurd (Answer.succeeded_of_publishes publishes) (by simp [h])
      | started succeeded _ _ => exact absurd succeeded (by simp [h])
      | failed _ ds' due rest =>
        have hs : StillDue ds (s.perform op).2.deletions := by
          rw [rest]
          exact hd.trans due
        have hi := ih hs
        rw [rest] at hi
        simpa [effective, history, h, rest] using hi

theorem remove_fails_iff (s : Service) (id : String) :
    (s.perform (.remove id)).1.succeeded = false ↔ id ∉ s.store.channels.map Channel.id := by
  rw [← Store.find?_eq_none_iff]
  cases hf : s.store.find? id with
  | some c => simp [perform, Store.removeContent_of_some hf, Answer.succeeded]
  | none => simp [perform, Store.removeContent_of_none hf, Answer.succeeded]

theorem carryOut_fails_iff {s : Service} {n : Nat} {id : String}
    (hn : s.deletions[n]? = some (some id)) :
    (s.perform (.carryOut n)).1.succeeded = false ↔ id ∉ s.store.channels.map Channel.id := by
  rw [← Store.find?_eq_none_iff]
  cases hf : s.store.find? id with
  | some c => simp [perform, hn, Store.delete_of_some hf, Answer.succeeded]
  | none => simp [perform, hn, Store.delete_of_none hf, Answer.succeeded]

/-- In any run an operation that fails leaves the store as it is, and one that succeeds publishes once
if it is a refresh or a removal. A removal fails exactly if no channel has the id. Without the
operations that fail in it the run has the same answers to the others, and the same store after
each of them. -/
theorem failures_leave_no_trace (store : Store) (ops : List Operation) :
    let start : Service := { store }
    let s := start.run ops
    (∀ op, (s.perform op).1.succeeded = false → (s.perform op).2.store = s.store) ∧
      (∀ op, (s.perform op).2.store.versions =
        s.store.versions + if (s.perform op).1.publishes then 1 else 0) ∧
      (∀ id, (s.perform (.remove id)).1.succeeded = false ↔
        id ∉ s.store.channels.map Channel.id) ∧
      (∀ n id, s.deletions[n]? = some (some id) →
        ((s.perform (.carryOut n)).1.succeeded = false ↔ id ∉ s.store.channels.map Channel.id)) ∧
      start.history (start.effective ops) = (start.history ops).filter fun e => e.1.succeeded := by
  intro start s
  exact ⟨fun op hf => (s.effect_perform op).store_eq hf, fun op => (s.effect_perform op).versions_eq,
    s.remove_fails_iff, fun _ _ hn => carryOut_fails_iff hn,
    history_effective (s := start) (.refl []) ops⟩

theorem effective_eq (s : Service) (ops : List Operation) :
    s.effective ops = ((ops.zip ((s.history ops).map fun e => e.1.succeeded)).filter
      Prod.snd).map Prod.fst := by
  induction ops generalizing s with
  | nil => rfl
  | cons op ops ih =>
    cases h : (s.perform op).1.succeeded with
    | true => simp [effective, history, h, ih]
    | false => simp [effective, history, h, ih]

/-- A removal comes between the two halves of a refresh. In the meantime the catalog is a directory, a
text cut off or a file too large, so other refreshes fail; the deletion of an unknown id and the one
without a runner fail as well. Left out, they are not missed. -/
theorem failed_refreshes_and_deletions_not_missed :
    let store : Store := { backed := true, channels := [.ofCounts "a" "A" 1 2] }
    let start : Service := { store }
    let catalog : FileState := .file "[[\"a\",\"A\",true,2,2]]".toUTF8
    let cutOff : FileState := .file "[[\"a\"".toUTF8
    let large : FileState := .changed 4194305 .empty
    let kept : List Operation := [.trigger true "b", .beginRefresh catalog, .remove "a",
      .endRefresh 0, .trigger true "c"]
    let ops : List Operation := [.trigger true "b", .carryOut 0, .trigger false "a",
      .beginRefresh catalog, .refresh .directory, .remove "a", .refresh cutOff, .endRefresh 0,
      .beginRefresh large, .trigger true "c"]
    let s := start.run ops
    (s.store.refresh .directory).1 = .error (.unreadable "Is a directory (os error 21)") ∧
      (s.store.refresh cutOff).1 = .error (.invalid (.notJson .endInList 1 5)) ∧
      (s.store.refresh large).1 =
        .error (.tooLarge "Catalog is 4194305 bytes (max 4194304 bytes)") ∧
      (∀ file ∈ [.directory, cutOff, large], (s.perform (.refresh file)).1.succeeded = false ∧
        (s.perform (.refresh file)).2.store = s.store) ∧
      s.deletions[1]? = some (some "c") ∧ (s.perform (.carryOut 1)).1.succeeded = false ∧
      (s.perform (.carryOut 1)).2.store = s.store ∧
      start.effective ops = kept ∧
      start.history kept = (start.history ops).filter (fun e => e.1.succeeded) ∧
      s.store.channels = [.ofCounts "a" "A" 0 2] ∧ s.store.versions = 2 := by
  intro store start catalog cutOff large kept ops s
  -- Under its name the run is not carried out again each time two of its states are compared.
  have hrun : (Service.mk store [] []).run ops = s := rfl
  obtain ⟨hsame, _, _, hfails, hhistory⟩ := failures_leave_no_trace store ops
  rw [hrun] at hsame hfails
  have hsucceeded : (start.history ops).map (fun e => e.1.succeeded) =
      [true, false, false, true, false, true, false, true, false, true] := by
    decide +kernel
  have heffective : start.effective ops = kept := by
    rw [effective_eq, hsucceeded]
    rfl
  have hdue : s.deletions[1]? = some (some "c") := by decide +kernel
  have hunknown : "c" ∉ s.store.channels.map Channel.id := by decide +kernel
  have hcarry := (hfails 1 "c" hdue).mpr hunknown
  have hrefresh : ∀ file ∈ [.directory, cutOff, large],
      (s.perform (.refresh file)).1.succeeded = false := by decide +kernel
  exact ⟨by decide +kernel, by decide +kernel, by decide +kernel,
    fun file hfile => ⟨hrefresh file hfile, hsame _ (hrefresh file hfile)⟩, hdue, hcarry,
    hsame _ hcarry, heffective, heffective ▸ hhistory, by decide +kernel, by decide +kernel⟩

end Service

end DeviceChannels
