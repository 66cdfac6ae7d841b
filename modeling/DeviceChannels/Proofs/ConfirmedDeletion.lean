import DeviceChannels.Proofs.DeletionPassage

/-! No deletion without a selection and a confirmation. Every id handed to the runner was staged by
a press on its row and confirmed by a later one, with neither a confirmation nor a cancellation in
between; content leaves the device only through the tasks started so. -/

namespace DeviceChannels.Session

def HandsOver (s : Session) (ts : List Turn) (i : Nat) (id : String) : Prop :=
  (s.upTo ts (i + 1)).runner.calls = (s.upTo ts i).runner.calls ++ [id]

/-- Turn `j` stages the id, and no press since then has confirmed or cancelled. -/
structure AccountsFor (s : Session) (ts : List Turn) (j i : Nat) (id : String) : Prop where
  before : j < i
  request : ∃ key, ts[j]? = some (.press key) ∧ (s.upTo ts j).Requests key id
  unanswered : ∀ k key, j < k → k < i → ts[k]? = some (.press key) → ¬ (s.upTo ts k).Answers key

/-- Where a task in flight stands after the turn, unless the turn ends it. -/
def Turn.shift (p : Nat) : Turn → Option Nat
  | .finish n | .panic n _ => if p = n then none else if n < p then some (p - 1) else some p
  | _ => some p

/-- A task that stands at `p` before turn `j` stands at `q` before turn `i`. -/
inductive Stands (ts : List Turn) (j p : Nat) : (i q : Nat) → Prop
  | refl : Stands ts j p j p
  | step {i q q' : Nat} {t : Turn} (h : Stands ts j p i q) (turn : ts[i]? = some t)
      (shift : t.shift q = some q') : Stands ts j p (i + 1) q'

/-- The deletion at position `q` before turn `i` was started when turn `j` handed its id over. -/
structure StartedBy (s : Session) (ts : List Turn) (j i q : Nat) (id : String) : Prop where
  before : j < i
  handsOver : HandsOver s ts j id
  added : (s.upTo ts (j + 1)).tasks = (s.upTo ts j).tasks ++ [.deletion id]
  stands : Stands ts (j + 1) (s.upTo ts j).tasks.length i q

section

variable {s : Session} {ts : List Turn}

theorem Passage.trigger_eq {t : Turn} {s' : Session} (h : Passage s t s') :
    s'.runner.trigger = s.runner.trigger := by
  cases h with
  | quiet _ undisturbed => rw [undisturbed.runner]
  | requested _ _ _ _ after | confirmed _ _ _ _ after | cancelled _ _ _ after
  | finished _ _ _ _ after => rw [after]; rfl

theorem trigger_upTo (ht : s.runner.trigger = .onStore) (i : Nat) :
    (s.upTo ts i).runner.trigger = .onStore := by
  induction i with
  | zero => exact ht
  | succ i ih =>
    cases hi : ts[i]? with
    | none => rwa [upTo_succ_of_none hi]
    | some t => rw [upTo_succ hi, (passage_turn ih t).trigger_eq, ih]

theorem passage_upTo (ht : s.runner.trigger = .onStore) {i : Nat} {t : Turn}
    (hi : ts[i]? = some t) : Passage (s.upTo ts i) t (s.upTo ts (i + 1)) := by
  rw [upTo_succ hi]
  exact passage_turn (trigger_upTo ht i) t

theorem AccountsFor.extend {j i : Nat} {id : String} (h : AccountsFor s ts j i id)
    (hq : ∀ key, ts[i]? = some (.press key) → ¬ (s.upTo ts i).Answers key) :
    AccountsFor s ts j (i + 1) id := by
  refine ⟨by have := h.before; omega, h.request, ?_⟩
  intro k key hjk hki hk
  by_cases he : k = i
  · subst he
    exact hq key hk
  · exact h.unanswered k key hjk (by omega) hk

theorem accountsFor_of_pending (ht : s.runner.trigger = .onStore) (hs : s.app.grid.pending = none)
    {i : Nat} {id : String} (h : (s.upTo ts i).app.grid.pending = some id) :
    ∃ j, AccountsFor s ts j i id := by
  induction i with
  | zero => simp [hs] at h
  | succ i ih =>
    cases hi : ts[i]? with
    | none =>
      rw [upTo_succ_of_none hi] at h
      obtain ⟨j, hj⟩ := ih h
      exact ⟨j, hj.extend (by simp [hi])⟩
    | some t =>
      cases passage_upTo ht hi with
      | quiet quiet undisturbed =>
        obtain ⟨j, hj⟩ := ih (undisturbed.pending ▸ h)
        exact ⟨j, hj.extend fun key hk => quiet key (Option.some.inj (hi.symm.trans hk))⟩
      | requested key id' press requests after =>
        rw [after] at h
        have he : id' = id := Option.some.inj h
        subst he press
        exact ⟨i, by omega, ⟨key, hi, requests⟩, fun k _ hik hki => by omega⟩
      | confirmed key id' press confirms after | cancelled key press cancels after =>
        rw [after] at h
        cases h
      | finished n task finish task_eq after =>
        rw [after] at h
        obtain ⟨j, hj⟩ := ih h
        subst finish
        exact ⟨j, hj.extend (by simp [hi])⟩

theorem calls_succ (ht : s.runner.trigger = .onStore) (ts : List Turn) (i : Nat) :
    (s.upTo ts (i + 1)).runner.calls = (s.upTo ts i).runner.calls ∨
      ∃ key id, ts[i]? = some (.press key) ∧ (s.upTo ts i).Confirms key id ∧
        s.upTo ts (i + 1) = (s.upTo ts i).afterConfirm id := by
  cases hi : ts[i]? with
  | none => exact .inl (by rw [upTo_succ_of_none hi])
  | some t =>
    cases passage_upTo ht hi with
    | quiet _ undisturbed => exact .inl (by rw [undisturbed.runner])
    | confirmed key id press confirms after => exact .inr ⟨key, id, by rw [press], confirms, after⟩
    | requested _ _ _ _ after | cancelled _ _ _ after | finished _ _ _ _ after =>
      exact .inl (by rw [after]; rfl)

theorem HandsOver.confirms (ht : s.runner.trigger = .onStore) {i : Nat} {id : String}
    (h : HandsOver s ts i id) :
    ∃ key, ts[i]? = some (.press key) ∧ (s.upTo ts i).Confirms key id ∧
      s.upTo ts (i + 1) = (s.upTo ts i).afterConfirm id := by
  rcases calls_succ ht ts i with he | ⟨key, id', hk, hc, ha⟩
  · rw [HandsOver, he] at h
    simp at h
  · have he : id' = id := by
      rw [HandsOver, ha] at h
      simpa [afterConfirm] using h
    exact ⟨key, hk, he ▸ hc, he ▸ ha⟩

theorem AccountsFor.unique (ht : s.runner.trigger = .onStore) {j i i' : Nat} {id id' : String}
    (h : HandsOver s ts i id) (ha : AccountsFor s ts j i id) (h' : HandsOver s ts i' id')
    (ha' : AccountsFor s ts j i' id') : i = i' := by
  obtain ⟨key, hk, hc, _⟩ := h.confirms ht
  obtain ⟨key', hk', hc', _⟩ := h'.confirms ht
  -- The earlier one would be an answer between the press on the row and the later one.
  rcases Nat.lt_trichotomy i i' with hlt | he | hlt
  · exact absurd (.inl ⟨id, hc⟩) (ha'.unanswered i key ha.before hlt hk)
  · exact he
  · exact absurd (.inl ⟨id', hc'⟩) (ha.unanswered i' key' ha'.before hlt hk')

theorem shift_of_kept {t : Turn} {tasks : List Task} {q : Nat} {task : Task}
    (h : (t.kept tasks)[q]? = some task) :
    ∃ p, t.shift p = some q ∧ tasks[p]? = some task := by
  have erased (n : Nat) (he : (tasks.eraseIdx n)[q]? = some task) :
      ∃ p, (if p = n then none else if n < p then some (p - 1) else some p) = some q ∧
        tasks[p]? = some task := by
    rw [List.getElem?_eraseIdx] at he
    by_cases hq : q < n
    · exact ⟨q, by rw [if_neg (by omega), if_neg (by omega)], by rwa [if_pos hq] at he⟩
    · refine ⟨q + 1, ?_, by rwa [if_neg hq] at he⟩
      rw [if_neg (by omega), if_pos (by omega), Nat.add_sub_cancel]
  cases t with
  | finish n | panic n _ => exact erased n h
  | _ => exact ⟨q, rfl, h⟩

theorem Passage.tasks_eq {t : Turn} {s' : Session} (h : Passage s t s') :
    (∃ new, s'.tasks = t.kept s.tasks ++ new ∧ ∀ id, Task.deletion id ∉ new) ∨
      ∃ key id, t = .press key ∧ s' = s.afterConfirm id := by
  cases h with
  | quiet _ undisturbed =>
    rcases undisturbed.tasks with he | he
    · exact .inl ⟨[], by simpa using he, by simp⟩
    · exact .inl ⟨[.refresh], he, by simp⟩
  | confirmed key id press _ after => exact .inr ⟨key, id, press, after⟩
  | requested _ _ press _ after | cancelled _ press _ after =>
    subst press after
    exact .inl ⟨[], (List.append_nil _).symm, by simp⟩
  | finished n task finish _ after =>
    subst finish after
    exact .inl ⟨[], (List.append_nil _).symm, by simp⟩

theorem startedBy_of_task (ht : s.runner.trigger = .onStore) (hs : s.tasks = []) {i : Nat}
    (hi : i ≤ ts.length) {q : Nat} {id : String}
    (h : (s.upTo ts i).tasks[q]? = some (.deletion id)) : ∃ j, StartedBy s ts j i q id := by
  induction i generalizing q with
  | zero => simp [hs] at h
  | succ i ih =>
    have hget : ts[i]? = some ts[i] := List.getElem?_eq_getElem hi
    have earlier {p : Nat} (hp : ts[i].shift p = some q)
        (htask : (s.upTo ts i).tasks[p]? = some (.deletion id)) :
        ∃ j, StartedBy s ts j (i + 1) q id := by
      obtain ⟨j, hj⟩ := ih (by omega) htask
      exact ⟨j, by have := hj.before; omega, hj.handsOver, hj.added, hj.stands.step hget hp⟩
    rcases (passage_upTo ht hget).tasks_eq with ⟨new, hnew, hno⟩ | ⟨key, id', hpress, after⟩
    · rw [hnew] at h
      by_cases hq : q < (ts[i].kept (s.upTo ts i).tasks).length
      · rw [List.getElem?_append_left hq] at h
        obtain ⟨p, hp, htask⟩ := shift_of_kept h
        exact earlier hp htask
      · rw [List.getElem?_append_right (by omega)] at h
        exact absurd (List.mem_of_getElem? h) (hno id)
    · have hadded : (s.upTo ts (i + 1)).tasks = (s.upTo ts i).tasks ++ [.deletion id'] := by
        rw [after]; rfl
      rw [hadded] at h
      by_cases hq : q < (s.upTo ts i).tasks.length
      · rw [List.getElem?_append_left hq] at h
        exact earlier (by rw [hpress]; rfl) h
      · rw [List.getElem?_append_right (by omega)] at h
        have hlast : q - (s.upTo ts i).tasks.length = 0 := by
          have hlt := (List.getElem?_eq_some_iff.mp h).1
          simpa using hlt
        obtain rfl : id' = id := by simpa [hlast] using h
        have he : q = (s.upTo ts i).tasks.length := by omega
        have hcalls : HandsOver s ts i id' := by
          rw [HandsOver, after]; rfl
        exact ⟨i, by omega, hcalls, hadded, he ▸ .refl⟩

theorem removed_finish {s : Session} {task : Task} {id : String}
    (h : id ∈ (s.finish task).store.removed) : id ∈ s.store.removed ∨ task = .deletion id := by
  cases task with
  | refresh =>
    cases hr : s.store.readAnew s.file with
    | error fault => exact .inl (by rwa [finish_refresh_of_error hr] at h)
    | ok read => exact .inl (by rwa [finish_refresh_of_ok hr] at h)
  | watch _ _ => exact .inl h
  | deletion id' =>
    cases hf : s.store.find? id' with
    | none => exact .inl (by rwa [finish_deletion_of_none hf] at h)
    | some c =>
      rw [finish_deletion_of_some hf, Store.removeContent_of_some hf] at h
      rcases List.mem_insert_iff.mp h with he | hm
      · exact .inr (by rw [he])
      · exact .inl hm

theorem Passage.removed {t : Turn} {s' : Session} (h : Passage s t s') {id : String}
    (hnew : id ∈ s'.store.removed) (hold : id ∉ s.store.removed) :
    ∃ n, t = .finish n ∧ s.tasks[n]? = some (.deletion id) := by
  cases h with
  | quiet _ undisturbed => exact absurd (undisturbed.store ▸ hnew) hold
  | requested _ _ _ _ after | confirmed _ _ _ _ after | cancelled _ _ _ after =>
    rw [after] at hnew
    exact absurd hnew hold
  | finished n task finish task_eq after =>
    rw [after] at hnew
    rcases removed_finish hnew with hm | rfl
    · exact absurd hm hold
    · exact ⟨n, finish, task_eq⟩

end

/-- Whatever happens in a run of the application, an id reaches the runner only when a confirmation
of it is pressed, and then a press on its row answers for it and for nothing else. An id joins the
removed ones only when a task comes to its end that was started so. -/
theorem deletions_are_confirmed (config : Config) (file : FileState) (store : Store)
    (ts : List Turn) :
    let s := start config file store
    (∀ i, (s.upTo ts (i + 1)).runner.calls = (s.upTo ts i).runner.calls ∨
      ∃ j id key, HandsOver s ts i id ∧ ts[i]? = some (.press key) ∧
        (s.upTo ts i).Confirms key id ∧ AccountsFor s ts j i id) ∧
    (∀ j i i' id id', HandsOver s ts i id → AccountsFor s ts j i id → HandsOver s ts i' id' →
      AccountsFor s ts j i' id' → i = i') ∧
    (∀ i id, id ∈ (s.upTo ts (i + 1)).store.removed → id ∉ (s.upTo ts i).store.removed →
      ∃ n j, ts[i]? = some (.finish n) ∧ (s.upTo ts i).tasks[n]? = some (.deletion id) ∧
        StartedBy s ts j i n id) := by
  intro s
  have ht : s.runner.trigger = .onStore := rfl
  refine ⟨fun i => ?_, fun j i i' id id' h ha h' ha' => ha.unique ht h h' ha', ?_⟩
  · rcases calls_succ ht ts i with he | ⟨key, id, hk, hc, after⟩
    · exact .inl he
    · have hcalls : HandsOver s ts i id := by
        rw [HandsOver, after]; rfl
      obtain ⟨j, hj⟩ := accountsFor_of_pending ht rfl hc.staged
      exact .inr ⟨j, id, key, hcalls, hk, hc, hj⟩
  · intro i id hnew hold
    cases hi : ts[i]? with
    | none =>
      rw [upTo_succ_of_none hi] at hnew
      exact absurd hnew hold
    | some t =>
      obtain ⟨n, rfl, htask⟩ := (passage_upTo ht hi).removed hnew hold
      have hlt : i < ts.length := (List.getElem?_eq_some_iff.mp hi).1
      obtain ⟨j, hj⟩ := startedBy_of_task ht rfl (by omega) htask
      exact ⟨n, j, rfl, htask, hj⟩

theorem content_goes_after_two_presses :
    let s := start {} .missing (.inMemory [.ofCounts "a" "A" 2 2])
    let ts : List Turn := [.press { code := .char 'd' }, .press { code := .char 'y' }, .finish 0]
    (∃ j id key, HandsOver s ts 1 id ∧ ts[1]? = some (.press key) ∧ (s.upTo ts 1).Confirms key id ∧
      AccountsFor s ts j 1 id) ∧
    "a" ∈ (s.upTo ts 3).store.removed ∧ "a" ∉ (s.upTo ts 2).store.removed ∧
    ∃ n j, ts[2]? = some (.finish n) ∧ (s.upTo ts 2).tasks[n]? = some (.deletion "a") ∧
      StartedBy s ts j 2 n "a" := by
  intro s ts
  obtain ⟨handed, _, entered⟩ := deletions_are_confirmed {} .missing
    (.inMemory [.ofCounts "a" "A" 2 2]) ts
  have hcalls : (s.upTo ts 2).runner.calls ≠ (s.upTo ts 1).runner.calls := by decide +kernel
  have hnew : "a" ∈ (s.upTo ts 3).store.removed := by decide +kernel
  have hold : "a" ∉ (s.upTo ts 2).store.removed := by decide +kernel
  exact ⟨(handed 1).resolve_left hcalls, hnew, hold, entered 2 "a" hnew hold⟩

end DeviceChannels.Session
