import Mathlib.Data.List.Forall2
import Mathlib.Data.List.Induction
import DeviceChannels.Proofs.Removal

/-! Refreshes and removals at the same time. A refresh reads in one step and publishes in a later
one; whatever comes between the two, a removal that succeeded stays in force. -/

namespace DeviceChannels

structure Traffic where
  store : Store
  /-- What refreshes have read and not yet published. -/
  held : List (List Channel) := []
  /-- The ids whose removal succeeded. -/
  taken : List String := []
  /-- What the refresh that published last had read. -/
  source : List Channel

namespace Traffic

inductive Move
  /-- A refresh reads, and finds the given file if there is one behind the store. -/
  | read (file : FileState)
  | publish (n : Nat)
  | remove (id : String)

def move (t : Traffic) : Move → Traffic
  | .read file =>
    match t.store.readAnew file with
    | .ok read => { t with held := t.held ++ [read] }
    | .error _ => t
  | .publish n =>
    match t.held[n]? with
    | some read =>
      { t with store := t.store.publish read, held := t.held.eraseIdx n, source := read }
    | none => t
  | .remove id =>
    match t.store.removeContent id with
    | (.ok _, store) => { t with store, taken := id :: t.taken }
    | (.error _, store) => { t with store }

def run (t : Traffic) (moves : List Move) : Traffic := moves.foldl move t

def start (backed : Bool) (channels : List Channel) : Traffic :=
  { store := { backed, channels }, source := channels }

theorem run_append_singleton (t : Traffic) (moves : List Move) (m : Move) :
    t.run (moves ++ [m]) = (t.run moves).move m := by
  simp [run]

end Traffic

/-- A published channel beside the one read for it: all but the content is the same, and so is the
content unless it was taken off. -/
structure Channel.Follows (taken : List String) (read shown : Channel) : Prop where
  id_eq : shown.id = read.id
  name_eq : shown.name = read.name
  available_eq : shown.available = read.available
  totalResources_eq : shown.totalResources = read.totalResources
  description_eq : shown.description = read.description
  version_eq : shown.version = read.version
  content : (shown.onDeviceResources = read.onDeviceResources ∧
      shown.onDeviceFileSize = read.onDeviceFileSize) ∨ (read.id ∈ taken ∧ shown.IsBare)

namespace Channel.Follows

theorem refl (taken : List String) (c : Channel) : Follows taken c c :=
  ⟨rfl, rfl, rfl, rfl, rfl, rfl, .inl ⟨rfl, rfl⟩⟩

theorem cons {taken : List String} {read shown : Channel} (h : Follows taken read shown)
    (id : String) : Follows (id :: taken) read shown :=
  { h with content := h.content.imp_right fun hc => ⟨List.mem_cons_of_mem _ hc.1, hc.2⟩ }

theorem withoutContent {taken : List String} {read shown : Channel}
    (h : Follows taken read shown) (hid : read.id ∈ taken) :
    Follows taken read shown.withoutContent :=
  { h with content := .inr ⟨hid, shown.isBare_withoutContent⟩ }

theorem afterRemovals {taken removed : List String} (h : removed ⊆ taken) (c : Channel) :
    Follows taken c (c.afterRemovals removed) := by
  by_cases hc : c.id ∈ removed
  · simpa only [Channel.afterRemovals, hc, if_true] using (refl taken c).withoutContent (h hc)
  · simpa only [Channel.afterRemovals, hc, if_false] using refl taken c

end Channel.Follows

theorem follows_applyRemovals {taken removed : List String} (h : removed ⊆ taken)
    (cs : List Channel) : List.Forall₂ (Channel.Follows taken) cs (applyRemovals removed cs) := by
  rw [applyRemovals_eq_map, List.forall₂_map_right_iff]
  exact List.forall₂_same.mpr fun c _ => Channel.Follows.afterRemovals h c

theorem follows_takeContentOff {taken : List String} {id : String} (hid : id ∈ taken)
    {read shown : List Channel} (h : List.Forall₂ (Channel.Follows taken) read shown) :
    List.Forall₂ (Channel.Follows taken) read (takeContentOff id shown) := by
  induction h with
  | nil => exact .nil
  | @cons r c rs cs hc hcs ih =>
    by_cases he : c.id = id
    · have hr : r.id ∈ taken := by rwa [← hc.id_eq, he]
      simpa only [takeContentOff, he, if_true] using .cons (hc.withoutContent hr) hcs
    · simpa only [takeContentOff, he, if_false] using .cons hc ih

theorem find?_applyRemovals (removed : List String) (cs : List Channel) (id : String) :
    (applyRemovals removed cs).find? (fun c => c.id == id) =
      (cs.find? fun c => c.id == id).map (Channel.afterRemovals removed) := by
  have hid : (fun c : Channel => c.id == id) ∘ Channel.afterRemovals removed =
      fun c => c.id == id := by
    funext c
    simp
  rw [applyRemovals_eq_map, List.find?_map, hid]

theorem find?_takeContentOff (id other : String) (cs : List Channel) :
    (takeContentOff id cs).find? (fun c => c.id == other) =
      if other = id then (cs.find? fun c => c.id == other).map Channel.withoutContent
      else cs.find? fun c => c.id == other := by
  induction cs with
  | nil => simp [takeContentOff]
  | cons c cs ih =>
    by_cases hc : c.id = id
    · by_cases ho : other = id
      · simp [takeContentOff, hc, ho]
      · simp [takeContentOff, hc, ho, Ne.symm ho]
    · by_cases ho : c.id = other
      · have hne : other ≠ id := ho ▸ hc
        simp [takeContentOff, ho, hne]
      · simp [takeContentOff, hc, ho, ih]

namespace Traffic

/-- What every step keeps. The copies that refreshes hold need no condition: removals are applied
to them only when they are published. -/
structure Sound (t : Traffic) : Prop where
  mem_removed_iff : ∀ id, id ∈ t.store.removed ↔ id ∈ t.taken
  first_bare : ∀ id ∈ t.taken, ∀ c, t.store.find? id = some c → c.IsBare
  follows : List.Forall₂ (Channel.Follows t.taken) t.source t.store.channels

theorem Sound.start (backed : Bool) (channels : List Channel) : Sound (start backed channels) where
  mem_removed_iff _ := Iff.rfl
  first_bare _ h := absurd h List.not_mem_nil
  follows := List.forall₂_same.mpr fun c _ => Channel.Follows.refl [] c

theorem Sound.publish {t : Traffic} (h : Sound t) (read : List Channel)
    (held : List (List Channel)) :
    Sound { t with store := t.store.publish read, held, source := read } where
  mem_removed_iff := h.mem_removed_iff
  first_bare := by
    intro id hid c hc
    simp only [Store.find?, Store.publish, find?_applyRemovals, Option.map_eq_some_iff] at hc
    obtain ⟨d, hd, rfl⟩ := hc
    have he : d.id = id := by simpa using List.find?_some hd
    have hr : d.id ∈ t.store.removed := by rw [he]; exact (h.mem_removed_iff id).mpr hid
    simpa only [Channel.afterRemovals, hr, if_true] using d.isBare_withoutContent
  follows := follows_applyRemovals (fun id hid => (h.mem_removed_iff id).mp hid) read

theorem Sound.remove {t : Traffic} (h : Sound t) {id : String} {c : Channel}
    (hc : t.store.find? id = some c) :
    Sound { t with store := (t.store.removeContent id).2, taken := id :: t.taken } := by
  rw [Store.removeContent_of_some hc]
  refine ⟨?_, ?_, ?_⟩
  · intro other
    simp [h.mem_removed_iff other]
  · intro other ho d hd
    simp only [Store.find?, find?_takeContentOff] at hd
    by_cases he : other = id
    · simp only [he, if_true, Option.map_eq_some_iff] at hd
      obtain ⟨e, _, rfl⟩ := hd
      exact e.isBare_withoutContent
    · have hm : other ∈ t.taken := (List.mem_cons.mp ho).resolve_left he
      rw [if_neg he] at hd
      exact h.first_bare other hm d hd
  · have hcons := h.follows.imp fun _ _ hf => hf.cons id
    exact follows_takeContentOff List.mem_cons_self hcons

theorem Sound.move {t : Traffic} (h : Sound t) (m : Move) : Sound (t.move m) := by
  cases m with
  | read file =>
    cases hr : t.store.readAnew file with
    | ok read =>
      simp only [Traffic.move, hr]
      exact ⟨h.mem_removed_iff, h.first_bare, h.follows⟩
    | error fault => simpa only [Traffic.move, hr] using h
  | publish n =>
    cases hn : t.held[n]? with
    | some read => simpa only [Traffic.move, hn] using h.publish read _
    | none => simpa only [Traffic.move, hn] using h
  | remove id =>
    cases hc : t.store.find? id with
    | some c =>
      have hs := h.remove hc
      simpa only [Traffic.move, Store.removeContent_of_some hc] using hs
    | none => simpa only [Traffic.move, Store.removeContent_of_none hc] using h

theorem sound_run (backed : Bool) (channels : List Channel) (moves : List Move) :
    Sound ((start backed channels).run moves) := by
  induction moves using List.reverseRecOn with
  | nil => exact Sound.start backed channels
  | append_singleton moves m ih =>
    rw [run_append_singleton]
    exact ih.move m

/-- After any moves in any order, a channel whose removal succeeded has no content, and the
published collection is the one read for it but for content that was taken off. -/
theorem removal_never_lost (backed : Bool) (channels : List Channel) (moves : List Move) :
    let t := (start backed channels).run moves
    (∀ id ∈ t.taken, ∀ c, t.store.find? id = some c →
      c.onDeviceResources = 0 ∧ c.onDeviceFileSize = 0) ∧
      List.Forall₂ (Channel.Follows t.taken) t.source t.store.channels :=
  have h := sound_run backed channels moves
  ⟨h.first_bare, h.follows⟩

/-- The collection is that of a file which one of the moves has found. -/
def FromFile (moves : List Move) (read : List Channel) : Prop :=
  ∃ file, .read file ∈ moves ∧ Catalog.load file = .ok read

theorem FromFile.append {moves : List Move} {read : List Channel} (h : FromFile moves read)
    (m : Move) : FromFile (moves ++ [m]) read := by
  obtain ⟨file, hfile, hload⟩ := h
  exact ⟨file, List.mem_append_left [m] hfile, hload⟩

/-- What is read, kept or published, when a file stands behind the store. -/
structure Loaded (channels : List Channel) (moves : List Move) (t : Traffic) : Prop where
  backed : t.store.backed = true
  held : ∀ read ∈ t.held, FromFile moves read
  source : t.source = channels ∨ FromFile moves t.source

theorem Loaded.append {channels : List Channel} {moves : List Move} {t : Traffic}
    (h : Loaded channels moves t) (m : Move) : Loaded channels (moves ++ [m]) t where
  backed := h.backed
  held read hread := (h.held read hread).append m
  source := h.source.imp_right fun hs => hs.append m

theorem Loaded.move {channels : List Channel} {moves : List Move} {t : Traffic}
    (h : Loaded channels moves t) (m : Move) : Loaded channels (moves ++ [m]) (t.move m) := by
  have hm := h.append m
  cases m with
  | read file =>
    cases hr : t.store.readAnew file with
    | ok read =>
      have hload : Catalog.load file = .ok read := by
        simpa only [Store.readAnew, h.backed, if_true] using hr
      have hfile : FromFile (moves ++ [.read file]) read := ⟨file, by simp, hload⟩
      simp only [Traffic.move, hr]
      refine ⟨hm.backed, fun other ho => ?_, hm.source⟩
      rcases List.mem_append.mp ho with ho | ho
      · exact hm.held other ho
      · rwa [List.mem_singleton.mp ho]
    | error fault => simpa only [Traffic.move, hr] using hm
  | publish n =>
    cases hn : t.held[n]? with
    | some read =>
      simp only [Traffic.move, hn]
      have hread := hm.held read (List.mem_of_getElem? hn)
      exact ⟨hm.backed, fun other ho => hm.held other (List.mem_of_mem_eraseIdx ho), .inr hread⟩
    | none => simpa only [Traffic.move, hn] using hm
  | remove id =>
    cases hc : t.store.find? id with
    | some c =>
      simp only [Traffic.move, Store.removeContent_of_some hc]
      exact ⟨hm.backed, hm.held, hm.source⟩
    | none => simpa only [Traffic.move, Store.removeContent_of_none hc] using hm

/-- What is published with a file behind the store was read from a file that one of the refreshes
found there, or it is the collection of the start. -/
theorem source_loaded (channels : List Channel) (moves : List Move) :
    let t := (start true channels).run moves
    t.source = channels ∨ FromFile moves t.source := by
  have hrun : Loaded channels moves ((start true channels).run moves) := by
    induction moves using List.reverseRecOn with
    | nil => exact ⟨rfl, nofun, .inl rfl⟩
    | append_singleton moves m ih =>
      rw [run_append_singleton]
      exact ih.move m
  exact hrun.source

/-- The refresh has read before the removal, and from another file than the store was opened with. -/
theorem removal_outlives_stale_copy :
    let file : FileState := .file "[[\"b\",\"B\",true,1,1],[\"a\",\"A\",true,2,2]]".toUTF8
    let t := (start true [.ofCounts "a" "A" 1 2]).run [.read file, .remove "a", .publish 0]
    Catalog.load file = .ok t.source ∧ t.source = [.ofCounts "b" "B" 1 1, .ofCounts "a" "A" 2 2] ∧
      "a" ∈ t.taken ∧ t.store.channels = [.ofCounts "b" "B" 1 1, .ofCounts "a" "A" 0 2] ∧
      ∃ c, t.store.find? "a" = some c ∧ c.onDeviceResources = 0 ∧ c.onDeviceFileSize = 0 := by
  intro file t
  have hload : Catalog.load file = .ok t.source := by decide +kernel
  have hsource : t.source = [.ofCounts "b" "B" 1 1, .ofCounts "a" "A" 2 2] := by decide +kernel
  have htaken : "a" ∈ t.taken := by decide +kernel
  have hshown : t.store.channels = [.ofCounts "b" "B" 1 1, .ofCounts "a" "A" 0 2] := by
    decide +kernel
  have hc : t.store.find? "a" = some (.ofCounts "a" "A" 0 2) := by decide +kernel
  exact ⟨hload, hsource, htaken, hshown, _, hc,
    (removal_never_lost true _ [.read file, .remove "a", .publish 0]).1 "a" htaken _ hc⟩

end Traffic

end DeviceChannels
