import DeviceChannels.Proofs.CleanLabel
import DeviceChannels.Proofs.ConfirmedDeletion
import DeviceChannels.Proofs.DisplayOrder
import DeviceChannels.Proofs.RefreshInterleaving
import DeviceChannels.Proofs.SelectionBounds

/-! What the status bar can say. Its texts are the program's own but for the name or the id of a
channel that is deleted, which stands in them as the catalog has it. -/

namespace DeviceChannels

namespace Text

-- Left to itself, the search for an instance may come to one that runs through all characters.
instance (cs : List Char) : Decidable (Clean cs) :=
  List.decidableBAll (fun c => isControl c = false) cs

theorem clean_append {s t : String} : Clean (s ++ t).toList ↔ Clean s.toList ∧ Clean t.toList := by
  rw [String.toList_append]
  exact List.forall_mem_append

theorem isControl_of_isDigit {c : Char} (h : c.isDigit = true) : isControl c = false := by
  simp only [Char.isDigit, Bool.and_eq_true, decide_eq_true_eq, UInt32.le_iff_toNat_le] at h
  have hlow : 48 ≤ c.toNat := h.1
  have hhigh : c.toNat ≤ 57 := h.2
  have hc : ¬ (c.toNat < 0x20 ∨ 0x7F ≤ c.toNat ∧ c.toNat ≤ 0x9F) := by omega
  simpa [isControl] using hc

theorem clean_toString (n : Nat) : Clean (toString n).toList := by
  intro c hc
  have hdigit : c ∈ Nat.toDigits 10 n := by simpa using hc
  exact isControl_of_isDigit (Nat.isDigit_of_mem_toDigits (by decide) (by decide) hdigit)

end Text

open Text

theorem ReadFault.clean_message (fault : ReadFault) : Clean fault.message.toList := by
  cases fault <;> decide +kernel

theorem Json.Reason.clean_message (reason : Json.Reason) : Clean reason.message.toList := by
  cases reason <;> decide +kernel

/-- No refusal of a catalog quotes it: beside the reason there are only numbers in it. -/
theorem Catalog.Refusal.clean_message (refusal : Catalog.Refusal) :
    Clean refusal.message.toList := by
  cases refusal with
  | notJson reason line column =>
    have hwords : Clean " at line ".toList ∧ Clean " column ".toList := by decide +kernel
    have hline : Clean (reason.message ++ " at line " ++ toString line).toList :=
      clean_append.mpr ⟨clean_append.mpr ⟨reason.clean_message, hwords.1⟩, clean_toString line⟩
    exact clean_append.mpr ⟨clean_append.mpr ⟨hline, hwords.2⟩, clean_toString column⟩
  | wrongShape => decide +kernel

theorem Catalog.clean_message_of_load {file : FileState} {fault : StoreFault}
    (h : Catalog.load file = .error fault) : Clean fault.message.toList := by
  unfold Catalog.load at h
  split at h
  next size _ =>
    obtain rfl := Except.error.inj h
    have hlarge : Clean "Channel catalog too large: ".toList := by decide +kernel
    have hsize : Clean (Catalog.sizeDetail size).toList := by
      have hnumber : Clean ("Catalog is " ++ toString size).toList :=
        clean_append.mpr ⟨by decide +kernel, clean_toString size⟩
      have hlimit : Clean (" bytes (max " ++ toString Catalog.maxBytes ++ " bytes)").toList := by
        decide +kernel
      simpa only [Catalog.sizeDetail, String.append_assoc] using
        clean_append.mpr ⟨hnumber, hlimit⟩
    exact clean_append.mpr ⟨hlarge, hsize⟩
  next fault _ =>
    obtain rfl := Except.error.inj h
    exact clean_append.mpr ⟨by decide +kernel, fault.clean_message⟩
  next => cases h
  next =>
    split at h
    next => cases h
    next refusal _ =>
      obtain rfl := Except.error.inj h
      exact clean_append.mpr ⟨by decide +kernel, refusal.clean_message⟩

theorem Store.clean_message_of_readAnew {store : Store} {file : FileState} {fault : StoreFault}
    (h : store.readAnew file = .error fault) : Clean fault.message.toList := by
  by_cases hb : store.backed = true
  · exact Catalog.clean_message_of_load (by simpa only [Store.readAnew, hb, if_true] using h)
  · simp [Store.readAnew, hb] at h

namespace Event

def statusText : Event → String
  | .channelsRefreshed count => "Refreshed " ++ toString count ++ " channels"
  | .refreshFailed error => "Refresh failed: " ++ error
  | .channelDeleted _ name => "Deleted \"" ++ name ++ "\""
  | .channelDeleteFailed _ fault => "Delete failed: " ++ fault.message
  | .taskPanicked task _ => "Internal error in " ++ task.text ++ " task"

theorem clean_statusText_channelsRefreshed (count : Nat) :
    Clean (channelsRefreshed count).statusText.toList := by
  have hcount : Clean ("Refreshed " ++ toString count).toList :=
    clean_append.mpr ⟨by decide +kernel, clean_toString count⟩
  exact clean_append.mpr ⟨hcount, by decide +kernel⟩

theorem clean_statusText_refreshFailed {error : String} (h : Clean error.toList) :
    Clean (refreshFailed error).statusText.toList :=
  clean_append.mpr ⟨by decide +kernel, h⟩

theorem clean_statusText_taskPanicked (task : TaskName) (error : String) :
    Clean (taskPanicked task error).statusText.toList := by
  change Clean ("Internal error in " ++ task.text ++ " task").toList
  cases task <;> decide +kernel

theorem clean_statusText_panicked (job : Job) (message : String) :
    Clean (job.panicked message).statusText.toList := by
  cases job with
  | publishing read => exact clean_statusText_taskPanicked .refresh message
  | task task =>
    cases task with
    | refresh => exact clean_statusText_taskPanicked .refresh message
    | watch id result => exact clean_statusText_taskPanicked .deleteChannel message
    | deletion id =>
      change Clean ("Delete failed: " ++ DeletionFault.dropped.message).toList
      decide +kernel

end Event

theorem App.handle_status (a : App) (now : Nat) (snapshot : List Channel) (event : Event) :
    (a.handle now snapshot event).status = some ⟨event.statusText, now⟩ := by
  cases event <;> rfl

/-- The name under which a collection has the id. -/
def nameOf (channels : List Channel) (id : String) : Option String :=
  (channels.find? fun c => c.id == id).map Channel.name

theorem label_eq_nameOf (channels : List Channel) (id : String) :
    (ConfirmSurface.mk id (channels.find? fun c => c.id == id)).label =
      (nameOf channels id).getD id := by
  rw [nameOf]
  cases channels.find? fun c => c.id == id <;> rfl

/-- How the status bar tells the outcome of a deletion. -/
def outcomeText (channels : List Channel) (id : String) : String :=
  match nameOf channels id with
  | some name => (Event.channelDeleted id name).statusText
  | none => (Event.channelDeleteFailed id (.unknownChannel id)).statusText

/-- What the status bar has to tell of a deletion, when the id is handed over and at its end. -/
def deletionTexts (channels : List Channel) (id : String) : List String :=
  ["Deleting " ++ (nameOf channels id).getD id ++ "...", outcomeText channels id]

theorem clean_deletionText_iff {channels : List Channel} {id text : String}
    (h : text ∈ deletionTexts channels id) :
    Clean text.toList ↔ Clean ((nameOf channels id).getD id).toList := by
  have hdeleting : Clean "Deleting ".toList ∧ Clean "...".toList := by decide +kernel
  have hdeleted : Clean "Deleted \"".toList ∧ Clean "\"".toList := by decide +kernel
  have hfailed : Clean "Delete failed: ".toList ∧ Clean "Unknown channel: ".toList := by
    decide +kernel
  rcases List.mem_pair.mp h with rfl | rfl
  · simp only [clean_append, hdeleting, true_and, and_true]
  · unfold outcomeText
    cases nameOf channels id with
    | some name =>
      change Clean ("Deleted \"" ++ name ++ "\"").toList ↔ Clean name.toList
      simp only [clean_append, hdeleted, true_and, and_true]
    | none =>
      change Clean ("Delete failed: " ++ ("Unknown channel: " ++ id)).toList ↔ Clean id.toList
      simp only [clean_append, hfailed, true_and]

/-- What is shown is what was read but for content taken off. -/
structure Stems (read shown : List Channel) : Prop where
  nameOf_eq : ∀ id, nameOf shown id = nameOf read id
  on_device : ∀ c ∈ shown, c.isOnDevice = true → c ∈ read

namespace Stems

variable {read shown : List Channel}

theorem refl (channels : List Channel) : Stems channels channels :=
  ⟨fun _ => rfl, fun _ h _ => h⟩

theorem trans {middle : List Channel} (h : Stems read middle) (h' : Stems middle shown) :
    Stems read shown where
  nameOf_eq id := (h'.nameOf_eq id).trans (h.nameOf_eq id)
  on_device c hc hon := h.on_device c (h'.on_device c hc hon) hon

theorem applyRemovals (removed : List String) (channels : List Channel) :
    Stems channels (applyRemovals removed channels) where
  nameOf_eq id := by
    have hname (c : Channel) : (c.afterRemovals removed).name = c.name := by
      rw [Channel.afterRemovals]
      split <;> rfl
    simp [nameOf, find?_applyRemovals, Option.map_map, Function.comp_def, hname]
  on_device c hc hon := by
    rw [applyRemovals_eq_map] at hc
    obtain ⟨d, hd, rfl⟩ := List.mem_map.mp hc
    by_cases hr : d.id ∈ removed
    · simp [Channel.afterRemovals, hr, Channel.withoutContent, Channel.isOnDevice] at hon
    · simpa [Channel.afterRemovals, hr] using hd

theorem takeContentOff (id : String) (channels : List Channel) :
    Stems channels (takeContentOff id channels) where
  nameOf_eq other := by
    rw [nameOf, find?_takeContentOff]
    split
    · rw [Option.map_map]
      rfl
    · rfl
  on_device c hc hon := by
    induction channels with
    | nil => exact hc
    | cons d ds ih =>
      by_cases hd : d.id = id
      · rw [DeviceChannels.takeContentOff, if_pos hd] at hc
        rcases List.mem_cons.mp hc with rfl | hm
        · simp [Channel.withoutContent, Channel.isOnDevice] at hon
        · exact List.mem_cons_of_mem d hm
      · rw [DeviceChannels.takeContentOff, if_neg hd] at hc
        rcases List.mem_cons.mp hc with rfl | hm
        · exact List.mem_cons_self
        · exact List.mem_cons_of_mem d (ih hm)

theorem mem_displayList (h : Stems read shown) {c : Channel} (hc : c ∈ displayList shown) :
    c ∈ displayList read := by
  obtain ⟨hm, hon⟩ := (DeviceChannels.mem_displayList _).mp hc
  exact (DeviceChannels.mem_displayList _).mpr ⟨h.on_device c hm hon, hon⟩

theorem deletionTexts_eq (h : Stems read shown) (id : String) :
    deletionTexts shown id = deletionTexts read id := by
  rw [deletionTexts, deletionTexts, outcomeText, outcomeText, h.nameOf_eq]

end Stems

section

variable {sources : Set (List Channel)} {text : String}

def StemsFrom (sources : Set (List Channel)) (channels : List Channel) : Prop :=
  ∃ read ∈ sources, Stems read channels

/-- The id is on a row of the list of one of the sources. -/
def Offered (sources : Set (List Channel)) (id : String) : Prop :=
  ∃ listed ∈ sources, ∃ c ∈ displayList listed, c.id = id

def Explained (sources : Set (List Channel)) (text : String) : Prop :=
  Clean text.toList ∨
    ∃ id, Offered sources id ∧ ∃ current ∈ sources, text ∈ deletionTexts current id

theorem StemsFrom.trans {read shown : List Channel} (h : StemsFrom sources read)
    (hs : Stems read shown) : StemsFrom sources shown := by
  obtain ⟨first, hfirst, hread⟩ := h
  exact ⟨first, hfirst, hread.trans hs⟩

theorem StemsFrom.offered {channels : List Channel} (h : StemsFrom sources channels) {c : Channel}
    (hc : c ∈ displayList channels) : Offered sources c.id := by
  obtain ⟨read, hread, hs⟩ := h
  exact ⟨read, hread, c, hs.mem_displayList hc, rfl⟩

theorem StemsFrom.explained {channels : List Channel} (h : StemsFrom sources channels) {id : String}
    (hid : Offered sources id) (ht : text ∈ deletionTexts channels id) :
    Explained sources text := by
  obtain ⟨read, hread, hs⟩ := h
  exact .inr ⟨id, hid, read, hread, hs.deletionTexts_eq id ▸ ht⟩

/-- Whatever the job still brings to the status bar will be explained. -/
def Job.Due (sources : Set (List Channel)) : Job → Prop
  | .task .refresh => True
  | .task (.deletion id) => Offered sources id
  | .task (.watch _ _) => False
  | .publishing read => StemsFrom sources read

end

namespace Session

/-- The collections stem from the sources, the deletions under way are of ids that were on a row, and
what the status bar tells or is to tell is explained by these. -/
structure Accounted (sources : Set (List Channel)) (s : Session) : Prop where
  trigger : s.runner.trigger = .onStore
  stored : StemsFrom sources s.store.channels
  shown : StemsFrom sources s.app.grid.channels
  listed : s.app.Listed
  staged : ∀ id, s.app.grid.pending = some id → Offered sources id
  tasks : ∀ task ∈ s.tasks, (Job.task task).Due sources
  events : ∀ event ∈ s.events, Explained sources event.statusText
  status : ∀ message, s.app.status = some message → Explained sources message.text

variable {sources : Set (List Channel)} {s s' : Session}

theorem status_spawnRefresh (s : Session) : s.spawnRefresh.app.status = s.app.status ∨
    s.spawnRefresh.app.status = some ⟨"Refresh already in progress", s.clock⟩ := by
  by_cases hl : s.app.grid.loading = true
  · exact .inr (by simp only [spawnRefresh, hl, if_true]; rfl)
  · exact .inl (by simp only [spawnRefresh, hl]; rfl)

/-- The deletion that a key hands over is named as the view has it. Whatever else a key brings to
the status bar is one of two fixed texts. -/
theorem status_press (ht : s.runner.trigger = .onStore) (key : Key) :
    (s.press key).1.app.status = s.app.status ∨
      (∃ text ∈ ["Refresh already in progress", "Cancelled"],
        (s.press key).1.app.status = some ⟨text, s.clock⟩) ∨
      ∃ id, s.app.grid.pending = some id ∧ ∃ text ∈ deletionTexts s.app.grid.channels id,
        (s.press key).1.app.status = some ⟨text, s.clock⟩ := by
  cases passage_press ht key with
  | requested _ id _ _ after =>
    rw [after]
    exact .inl rfl
  | cancelled _ _ _ after =>
    rw [after]
    exact .inr (.inl ⟨_, by simp, rfl⟩)
  | confirmed _ id _ confirms after =>
    rw [after]
    refine .inr (.inr ⟨id, confirms.staged, _, List.mem_cons_self, ?_⟩)
    rw [← label_eq_nameOf]
    rfl
  | quiet _ undisturbed =>
    generalize hafter : (s.press key).1 = after at undisturbed ⊢
    have hpressed : s.Pressed after := hafter ▸ s.pressed_press key
    cases hpressed with
    | confirmed id status started _ _ _ =>
      have hcalls : (s.runner.calls ++ [id]).length = s.runner.calls.length :=
        congrArg (fun r : Runner => r.calls.length) undisturbed.runner
      simp at hcalls
    | cancelled _ staged =>
      have hnone : none = s.app.grid.pending := undisturbed.pending
      simp [← hnone] at staged
    | refreshed _ =>
      exact s.status_spawnRefresh.imp_right fun h => .inl ⟨_, List.mem_cons_self, h⟩
    | _ => exact .inl rfl
  | finished _ _ finish _ _ => cases finish

theorem tasks_press (ht : s.runner.trigger = .onStore) (key : Key) {task : Task}
    (h : task ∈ (s.press key).1.tasks) :
    task ∈ s.tasks ∨ task = .refresh ∨
      ∃ id, s.app.grid.pending = some id ∧ task = .deletion id := by
  cases passage_press ht key with
  | quiet _ undisturbed =>
    rcases undisturbed.tasks with hsame | hmore
    · exact .inl (by rwa [hsame] at h)
    · rw [hmore] at h
      exact (List.mem_append.mp h).imp_right fun hr => .inl (List.mem_singleton.mp hr)
  | confirmed _ id _ confirms after =>
    rw [after] at h
    exact (List.mem_append.mp h).imp_right fun hd =>
      .inr ⟨id, confirms.staged, List.mem_singleton.mp hd⟩
  | requested _ _ _ _ after | cancelled _ _ _ after =>
    rw [after] at h
    exact .inl h
  | finished _ _ finish _ _ => cases finish

theorem pending_press (key : Key) {id : String} (h : (s.press key).1.app.grid.pending = some id) :
    s.app.grid.pending = some id ∨ ∃ c ∈ s.app.grid.display, c.id = id := by
  by_cases hp : s.app.grid.pending = some id
  · exact .inl hp
  · obtain ⟨c, hc, hid⟩ := Option.map_eq_some_iff.mp (stages_iff.mp ⟨hp, h⟩).selected
    exact .inr ⟨c, List.mem_of_getElem? hc, hid⟩

namespace Accounted

theorem start (config : Config) (file : FileState) (store : Store)
    (h : StemsFrom sources store.channels) :
    (Session.start config file store).Accounted sources where
  trigger := rfl
  stored := h
  shown := h
  listed := rfl
  staged _ hp := by cases hp
  tasks _ ht := by cases ht
  events _ he := by cases he
  status _ hm := by cases hm

theorem same_collections (h : s.Accounted sources) (hsame : SameCollections s s') :
    StemsFrom sources s'.store.channels ∧ StemsFrom sources s'.app.grid.channels ∧ s'.app.Listed ∧
      ∀ event ∈ s'.events, Explained sources event.statusText :=
  ⟨hsame.store ▸ h.stored, hsame.channels ▸ h.shown, hsame.listed h.listed, hsame.events ▸ h.events⟩

theorem press (h : s.Accounted sources) (key : Key) : (s.press key).1.Accounted sources := by
  obtain ⟨stored, shown, listed, events⟩ :=
    h.same_collections (s.pressed_press key).sameCollections
  have hrow {c : Channel} (hc : c ∈ s.app.grid.display) : Offered sources c.id :=
    h.shown.offered (h.listed ▸ hc)
  have trigger : (s.press key).1.runner.trigger = .onStore :=
    (passage_press h.trigger key).trigger_eq.trans h.trigger
  refine ⟨trigger, stored, shown, listed, ?_, ?_, events, ?_⟩
  · intro id hid
    rcases pending_press key hid with hp | ⟨c, hc, rfl⟩
    · exact h.staged id hp
    · exact hrow hc
  · intro task ht
    rcases tasks_press h.trigger key ht with hold | rfl | ⟨id, hp, rfl⟩
    · exact h.tasks task hold
    · trivial
    · exact h.staged id hp
  · intro message hm
    rcases status_press h.trigger key with hsame | ⟨text, ht, hs⟩ | ⟨id, hp, text, ht, hs⟩
    · exact h.status message (hsame ▸ hm)
    · obtain rfl := Option.some.inj (hs.symm.trans hm)
      have hclean : ∀ text ∈ ["Refresh already in progress", "Cancelled"], Clean text.toList := by
        decide +kernel
      exact .inl (hclean text ht)
    · obtain rfl := Option.some.inj (hs.symm.trans hm)
      exact h.shown.explained (h.staged id hp) ht

theorem spawnRefresh (h : s.Accounted sources) : s.spawnRefresh.Accounted sources := by
  obtain ⟨stored, shown, listed, events⟩ := h.same_collections s.spawnRefresh_sameCollections
  have hsame : Undisturbed s s.spawnRefresh s.tasks := s.spawnRefresh_undisturbed
  refine ⟨hsame.runner ▸ h.trigger, stored, shown, listed, ?_, ?_, events, ?_⟩
  · rw [hsame.pending]
    exact h.staged
  · intro task ht
    rcases hsame.tasks with he | he <;> rw [he] at ht
    · exact h.tasks task ht
    · rcases List.mem_append.mp ht with hold | hnew
      · exact h.tasks task hold
      · obtain rfl := List.mem_singleton.mp hnew
        trivial
  · intro message hm
    rcases s.status_spawnRefresh with hs | hs
    · exact h.status message (hs ▸ hm)
    · obtain rfl := Option.some.inj (hs.symm.trans hm)
      have hclean : Clean "Refresh already in progress".toList := by decide +kernel
      exact .inl hclean

theorem handle (h : s.Accounted sources) {event : Event} {left : List Event}
    (hevent : Explained sources event.statusText) (hleft : left ⊆ s.events) :
    (({ s with events := left } : Session).handle event).Accounted sources where
  trigger := h.trigger
  stored := h.stored
  shown := by
    by_cases he : event.Syncs
    · have hshown := (s.app.handle_of_syncs s.clock s.store.channels he).1
      exact hshown ▸ h.stored
    · have hshown := (s.app.handle_of_not_syncs s.clock s.store.channels he).1
      exact hshown ▸ h.shown
  listed := h.listed.handle _ _ _
  staged id hp := h.staged id (by simpa [Session.handle] using hp)
  tasks := h.tasks
  events e he := h.events e (hleft he)
  status message hm := by
    obtain rfl := Option.some.inj ((App.handle_status _ _ _ _).symm.trans hm)
    exact hevent

theorem aside (h : s.Accounted sources) (ha : Aside s s') : s'.Accounted sources := by
  obtain ⟨stored, shown, listed, events⟩ := h.same_collections ha.sameCollections
  obtain ⟨status, needsRedraw, spinnerFrame, hstatus, happ⟩ := ha.app
  refine ⟨ha.runner ▸ h.trigger, stored, shown, listed, ?_, ha.tasks ▸ h.tasks, events, ?_⟩
  · rw [happ]
    exact h.staged
  · rw [happ]
    intro message hm
    rcases hstatus with rfl | rfl
    · exact h.status message hm
    · cases hm

theorem sync (h : s.Accounted sources) (shownVersion : Nat) :
    ({ s with
      app := s.app.syncChannels s.store.channels, shownVersion } : Session).Accounted sources where
  trigger := h.trigger
  stored := h.stored
  shown := h.stored
  listed := rfl
  staged := h.staged
  tasks := h.tasks
  events := h.events
  status := h.status

theorem turn (h : s.Accounted sources) (hs : s.tasks = []) {t : Turn}
    (hreport : ∀ event, t ≠ .report event) (hpublish : ∀ channels, t ≠ .publish channels) :
    (s.turn t).Accounted sources := by
  by_cases hpress : ∃ key, t = .press key
  · obtain ⟨key, rfl⟩ := hpress
    exact h.press key
  have hturned : Turned s t (s.turn t) := turned_turn hs t
  generalize s.turn t = s' at hturned ⊢
  cases hturned with
  | aside aside => exact h.aside aside
  | pressed key turn _ => exact absurd ⟨key, turn⟩ hpress
  | refreshed _ => exact h.spawnRefresh
  | handled event left source =>
    rcases source with ⟨n, hn, rfl⟩ | ⟨ht, _⟩
    · exact h.handle (h.events event (List.mem_of_getElem? hn)) fun _ => List.mem_of_mem_eraseIdx
    · exact absurd ht (hreport event)
  | shown channels shownVersion source =>
    obtain rfl := source.resolve_right (hpublish channels)
    exact h.sync shownVersion

/-- A step behind the application's back: of it, only the store and the reports may change. -/
theorem behind (h : s.Accounted sources) (happ : s'.app = s.app) (hrunner : s'.runner = s.runner)
    (htasks : s'.tasks = s.tasks) (hstored : StemsFrom sources s'.store.channels)
    (hevents : ∀ event ∈ s'.events, event ∈ s.events ∨ Explained sources event.statusText) :
    s'.Accounted sources where
  trigger := hrunner ▸ h.trigger
  stored := hstored
  shown := happ ▸ h.shown
  listed := happ ▸ h.listed
  staged := happ ▸ h.staged
  tasks := htasks ▸ h.tasks
  events event he := (hevents event he).elim (h.events event) id
  status := happ ▸ h.status

end Accounted

theorem explained_concat {events : List Event} {event : Event}
    (he : Explained sources event.statusText) :
    ∀ e ∈ events ++ [event], e ∈ events ∨ Explained sources e.statusText := by
  intro e hm
  refine (List.mem_append.mp hm).imp_right fun hnew => ?_
  obtain rfl := List.mem_singleton.mp hnew
  exact he

/-- A deletion takes content off and reports the name that the store had for the id. -/
theorem finish_deletion (s : Session) (id : String) :
    ∃ event, (s.finish (.deletion id)).events = s.events ++ [event] ∧
      event.statusText = outcomeText s.store.channels id ∧
      Stems s.store.channels (s.finish (.deletion id)).store.channels := by
  cases hf : s.store.find? id with
  | some c =>
    have hname : nameOf s.store.channels id = some c.name := congrArg (Option.map Channel.name) hf
    rw [finish_deletion_of_some hf, Store.removeContent_of_some hf, outcomeText, hname]
    exact ⟨_, rfl, rfl, Stems.takeContentOff id s.store.channels⟩
  | none =>
    have hname : nameOf s.store.channels id = none := congrArg (Option.map Channel.name) hf
    rw [finish_deletion_of_none hf, outcomeText, hname]
    exact ⟨_, rfl, rfl, Stems.refl s.store.channels⟩

theorem Pressed.file_eq (h : s.Pressed s') : s'.file = s.file := by
  cases h with
  | refreshed _ => by_cases hl : s.app.grid.loading = true <;> simp [spawnRefresh, hl]
  | _ => rfl

/-- With all tasks in flight elsewhere, a turn leaves the store alone, and the file unless it is the
turn that writes it. -/
theorem turn_store {t : Turn} (hs : s.tasks = []) (ht : ∀ file, t ≠ .write file) :
    (s.turn t).file = s.file ∧ (s.turn t).store = s.store := by
  cases t with
  | press key => exact ⟨(s.pressed_press key).file_eq, (s.pressed_press key).sameCollections.store⟩
  | refresh => by_cases hl : s.app.grid.loading = true <;> simp [turn, spawnRefresh, hl]
  | finish n | panic n _ => simp [turn, hs]
  | handle n => cases hn : s.events[n]? <;> simp [turn, hn, handle]
  | sync => by_cases hv : s.shownVersion = s.store.versions <;> simp [turn, sync, hv]
  | write file => exact absurd rfl (ht file)
  | report _ | publish _ | tick | pass _ => exact ⟨rfl, rfl⟩

theorem carryOn_runner (s : Session) (job : Job) : (s.carryOn job).1.runner = s.runner ∧
    (s.carryOn job).1.file = s.file ∧ (s.carryOn job).1.store.backed = s.store.backed := by
  cases job with
  | publishing read => exact ⟨rfl, rfl, rfl⟩
  | task task =>
    cases task with
    | refresh => cases hr : s.store.readAnew s.file <;> simp [carryOn, hr]
    | watch id result => exact ⟨rfl, rfl, rfl⟩
    | deletion id =>
      cases hf : s.store.find? id with
      | none => simp [carryOn, finish_deletion_of_none hf]
      | some c =>
        simp [carryOn, finish_deletion_of_some hf, Store.removeContent_of_some hf]

namespace Accounted

theorem removal (h : s.Accounted sources) {id : String} (hid : Offered sources id) :
    (s.finish (.deletion id)).Accounted sources := by
  obtain ⟨event, hevents, htext, hstems⟩ := s.finish_deletion id
  have hmem : event.statusText ∈ deletionTexts s.store.channels id := by
    rw [htext]
    exact List.mem_cons_of_mem _ List.mem_cons_self
  refine h.behind rfl rfl rfl (h.stored.trans hstems) ?_
  rw [hevents]
  exact explained_concat (h.stored.explained hid hmem)

theorem carryOn (h : s.Accounted sources)
    (hread : ∀ read, s.store.readAnew s.file = .ok read → StemsFrom sources read) {job : Job}
    (hjob : job.Due sources) :
    (s.carryOn job).1.Accounted sources ∧ ∀ rest ∈ (s.carryOn job).2, rest.Due sources := by
  cases job with
  | publishing read =>
    have hstored : StemsFrom sources (s.store.publish read).channels :=
      StemsFrom.trans hjob (Stems.applyRemovals s.store.removed read)
    have hclean := Event.clean_statusText_channelsRefreshed (s.store.publish read).channels.length
    exact ⟨h.behind rfl rfl rfl hstored (explained_concat (.inl hclean)), by simp [Session.carryOn]⟩
  | task task =>
    cases task with
    | watch id result => exact hjob.elim
    | deletion id => exact ⟨h.removal hjob, by simp [Session.carryOn]⟩
    | refresh =>
      cases hr : s.store.readAnew s.file with
      | ok read =>
        simp only [Session.carryOn, hr, List.mem_singleton, forall_eq]
        exact ⟨h, hread read hr⟩
      | error fault =>
        simp only [Session.carryOn, hr, List.not_mem_nil, false_implies, implies_true, and_true]
        have hclean : Clean fault.message.toList := Store.clean_message_of_readAnew hr
        exact h.behind rfl rfl rfl h.stored
          (explained_concat (.inl (Event.clean_statusText_refreshFailed hclean)))

end Accounted

end Session

/-- The collections that a store can get from the files that may be found at its path. -/
def Store.readable (store : Store) (files : Set FileState) : Set (List Channel) :=
  {read | ∃ file ∈ files, store.readAnew file = .ok read}

namespace Flight

/-- An act of the application, or of the world around it as long as it puts only these files at the
path of the catalog. -/
def Act.Own (files : Set FileState) : Act → Prop
  -- A turn that writes the catalog is a replacement by what it leaves at the path.
  | .turn (.report _) | .turn (.publish _) | .turn (.write _) => False
  | .replace file => file ∈ files
  | _ => True

structure Accounted (files : Set FileState) (opened : Store) (f : Flight) : Prop where
  session : f.session.Accounted (opened.readable files)
  jobs : ∀ job ∈ f.jobs, job.Due (opened.readable files)
  file : f.session.file ∈ files
  backed : f.session.store.backed = opened.backed

variable {files : Set FileState} {opened : Store} {f : Flight}

namespace Accounted

theorem stemsFrom_of_read (h : f.Accounted files opened) {read : List Channel}
    (hr : f.session.store.readAnew f.session.file = .ok read) :
    StemsFrom (opened.readable files) read := by
  by_cases hb : opened.backed = true
  · have hopened : opened.readAnew f.session.file = .ok read := by
      simpa only [Store.readAnew, h.backed, hb, if_true] using hr
    exact ⟨read, ⟨_, h.file, hopened⟩, Stems.refl read⟩
  · have hsame : f.session.store.channels = read := by
      simpa [Store.readAnew, h.backed, hb] using hr
    exact hsame ▸ h.session.stored

theorem carryOn (h : f.Accounted files opened) {n : Nat} {job : Job} (hn : f.jobs[n]? = some job) :
    (f.session.carryOn job).1.Accounted (opened.readable files) ∧
      ∀ rest ∈ (f.session.carryOn job).2, rest.Due (opened.readable files) :=
  h.session.carryOn (fun _ => h.stemsFrom_of_read) (h.jobs job (List.mem_of_getElem? hn))

theorem turn (h : f.Accounted files opened) (hs : f.session.tasks = []) {t : Session.Turn}
    (ht : Act.Own files (.turn t)) : (f.act (.turn t)).Accounted files opened := by
  have hturn : (f.session.turn t).Accounted (opened.readable files) := by
    apply h.session.turn hs
    · rintro event rfl
      exact ht
    · rintro channels rfl
      exact ht
  have hsame : (f.session.turn t).file = f.session.file ∧
      (f.session.turn t).store = f.session.store := by
    apply Session.turn_store hs
    rintro file rfl
    exact ht
  refine ⟨{ hturn with tasks := fun _ h => absurd h List.not_mem_nil }, ?_, ?_, ?_⟩
  · intro job hjob
    rcases List.mem_append.mp hjob with hold | hnew
    · exact h.jobs job hold
    · obtain ⟨task, htask, rfl⟩ := List.mem_map.mp hnew
      exact hturn.tasks task htask
  · exact hsame.1 ▸ h.file
  · exact (congrArg Store.backed hsame.2).trans h.backed

theorem act (h : f.Accounted files opened) (hs : f.session.tasks = []) {a : Act}
    (ha : a.Own files) : (f.act a).Accounted files opened := by
  cases a with
  | turn t => exact h.turn hs ha
  | replace file =>
    exact ⟨h.session.behind rfl rfl rfl h.session.stored fun _ he => .inl he, h.jobs, ha, h.backed⟩
  | advance n =>
    cases hn : f.jobs[n]? with
    | none => simpa only [Flight.act, move, hn] using h
    | some job =>
      obtain ⟨hsession, hrest⟩ := h.carryOn hn
      obtain ⟨_, hfile, hbacked⟩ := f.session.carryOn_runner job
      simp only [Flight.act, move, hn]
      refine ⟨hsession, ?_, hfile ▸ h.file, hbacked.trans h.backed⟩
      intro j hj
      rcases List.mem_append.mp hj with hnew | hold
      · exact hrest j hnew
      · exact h.jobs j (List.mem_of_mem_eraseIdx hold)
  | panic n late message =>
    cases hn : f.jobs[n]? with
    | none => simpa only [Flight.act, hn] using h
    | some job =>
      simp only [Flight.act, hn]
      have hreport : Explained (opened.readable files) (job.panicked message).statusText :=
        .inl (Event.clean_statusText_panicked job message)
      refine ⟨h.session.behind rfl rfl rfl ?_ (Session.explained_concat hreport), ?_, h.file, ?_⟩
      · cases late with
        | true => exact (h.carryOn hn).1.stored
        | false => exact h.session.stored
      · exact fun j hj => h.jobs j (List.mem_of_mem_eraseIdx hj)
      · cases late with
        | true => exact (f.session.carryOn_runner job).2.2.trans h.backed
        | false => exact h.backed

theorem play (h : f.Accounted files opened) (hs : f.session.tasks = []) {acts : List Act}
    (ha : ∀ a ∈ acts, a.Own files) : (f.play acts).Accounted files opened :=
  play_induction (P := Accounted files opened) hs h fun _ a hm hg hP => hP.act hg (ha a hm)

end Accounted

end Flight

end DeviceChannels
