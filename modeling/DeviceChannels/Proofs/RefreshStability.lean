import Mathlib.Data.List.Induction
import DeviceChannels.Proofs.Removal

/-! A removal as it is shown at once, against the same removal as a later refresh makes it anew from
the catalog. The first concerns one channel of the id, the second all of them. -/

namespace DeviceChannels

namespace Store

inductive Call
  | remove (id : String)
  | refresh

def serve (file : FileState) (s : Store) : Call → Store
  | .remove id => (s.removeContent id).2
  | .refresh => (s.refresh file).2

def serveAll (s : Store) (file : FileState) (calls : List Call) : Store :=
  calls.foldl (serve file) s

theorem serveAll_append_singleton (s : Store) (file : FileState) (calls : List Call) (call : Call) :
    s.serveAll file (calls ++ [call]) = (s.serveAll file calls).serve file call := by
  simp [serveAll]

/-- A refresh publishes the very collection that is shown already. -/
def Republishes (s : Store) (file : FileState) : Prop :=
  s.refresh file = (.ok s.channels, { s with versions := s.versions + 1 })

theorem open_eq_ok_iff {file : FileState} {s : Store} :
    Store.open file = .ok s ↔
      Catalog.load file = .ok s.channels ∧ s = { backed := true, channels := s.channels } := by
  cases h : Catalog.load file with
  | error fault => simp [Store.open, h]
  | ok channels =>
    simp only [Store.open, h, Except.ok.injEq]
    constructor
    · rintro rfl
      exact ⟨rfl, rfl⟩
    · rintro ⟨hc, hs⟩
      rw [hs, hc]

/-- The store stands over a catalog: with its removals applied, what it shows is the catalog. -/
structure Mirrors (catalog : List Channel) (s : Store) : Prop where
  backed : s.backed = true
  ids_eq : s.channels.map Channel.id = catalog.map Channel.id
  settled : applyRemovals s.removed s.channels = applyRemovals s.removed catalog

section

variable {file : FileState} {catalog : List Channel} {s : Store}

theorem Mirrors.refresh_eq (h : Mirrors catalog s) (hf : Catalog.load file = .ok catalog) :
    s.refresh file = (.ok (applyRemovals s.removed catalog), s.publish catalog) := by
  simp [refresh, readAnew, h.backed, hf, publish]

theorem Mirrors.republishes_iff (h : Mirrors catalog s) (hf : Catalog.load file = .ok catalog) :
    s.Republishes file ↔ applyRemovals s.removed s.channels = s.channels := by
  rw [Republishes, h.refresh_eq hf, h.settled]
  constructor
  · intro he
    exact Except.ok.inj (congrArg Prod.fst he)
  · intro he
    rw [publish, he]

theorem Mirrors.serve (h : Mirrors catalog s) (hf : Catalog.load file = .ok catalog)
    (call : Call) : Mirrors catalog (s.serve file call) := by
  cases call with
  | refresh =>
    simp only [Store.serve, h.refresh_eq hf]
    exact ⟨h.backed, map_id_applyRemovals _ _, applyRemovals_of_subset (fun _ hi => hi) catalog⟩
  | remove id =>
    cases hc : s.find? id with
    | none => simpa only [Store.serve, removeContent_of_none hc] using h
    | some c =>
      simp only [Store.serve, removeContent_of_some hc]
      refine ⟨h.backed, (map_id_takeContentOff id _).trans h.ids_eq, ?_⟩
      have hsub : s.removed ⊆ s.removed.insert id := fun _ hi => List.mem_insert_of_mem hi
      calc applyRemovals (s.removed.insert id) (takeContentOff id s.channels)
          = applyRemovals (s.removed.insert id) s.channels :=
            applyRemovals_takeContentOff List.mem_insert_self _
        _ = applyRemovals (s.removed.insert id) (applyRemovals s.removed s.channels) :=
            (applyRemovals_of_subset hsub _).symm
        _ = applyRemovals (s.removed.insert id) catalog := by
            rw [h.settled, applyRemovals_of_subset hsub]

theorem mirrors_serveAll (hf : Catalog.load file = .ok catalog) (calls : List Call) :
    Mirrors catalog (serveAll { backed := true, channels := catalog } file calls) := by
  induction calls using List.reverseRecOn with
  | nil => exact ⟨rfl, rfl, rfl⟩
  | append_singleton calls call ih =>
    rw [serveAll_append_singleton]
    exact ih.serve hf call

/-- Where only the first channel of an id has content, the two ways to remove agree all along. -/
theorem channels_serveAll (hf : Catalog.load file = .ok catalog) (hr : RepeatsBare catalog)
    (calls : List Call) :
    let t := serveAll { backed := true, channels := catalog } file calls
    t.channels = applyRemovals t.removed catalog := by
  induction calls using List.reverseRecOn with
  | nil => exact (applyRemovals_nil catalog).symm
  | append_singleton calls call ih =>
    have hm := mirrors_serveAll hf calls
    rw [serveAll_append_singleton]
    generalize serveAll { backed := true, channels := catalog } file calls = t at ih hm
    cases call with
    | refresh => simp only [Store.serve, hm.refresh_eq hf, publish]
    | remove id =>
      cases hc : t.find? id with
      | none => simpa only [Store.serve, removeContent_of_none hc] using ih
      | some c =>
        have hid : id ∈ t.channels.map Channel.id := find?_isSome_iff.mp (by simp [hc])
        have hb : RepeatsBare t.channels := by rw [ih]; exact hr.applyRemovals t.removed
        simp only [Store.serve, removeContent_of_some hc]
        rw [repeatsBare_iff.mp hb id hid, ih, applyRemovals_applyRemovals]
        apply applyRemovals_congr
        simp

end

/-- A refresh leaves the collection as it is shown exactly if no removed id still has content in
it. This is so after all calls exactly if only the first channel of an id has content in the
catalog. -/
theorem republishes_iff_repeatsBare {file : FileState} {s : Store} (h : Store.open file = .ok s) :
    (∀ calls, let t := s.serveAll file calls
      t.Republishes file ↔ ∀ c ∈ t.channels, c.id ∈ t.removed → c.IsBare) ∧
      ((∀ calls, (s.serveAll file calls).Republishes file) ↔ RepeatsBare s.channels) := by
  obtain ⟨hf, hs⟩ := open_eq_ok_iff.mp h
  generalize s.channels = catalog at hf hs
  subst hs
  have hrun (calls : List Call) := (mirrors_serveAll hf calls).republishes_iff hf
  refine ⟨fun calls => (hrun calls).trans applyRemovals_eq_self_iff, ?_, ?_⟩
  · intro hall
    refine repeatsBare_iff.mpr fun id hid => ?_
    obtain ⟨c, hc⟩ := Option.isSome_iff_exists.mp
      ((find?_isSome_iff (s := { backed := true, channels := catalog })).mpr hid)
    have he := (hrun [.remove id]).mp (hall [.remove id])
    simp only [serveAll, List.foldl_cons, List.foldl_nil, serve, removeContent_of_some hc] at he
    rw [← he]
    exact applyRemovals_takeContentOff List.mem_insert_self catalog
  · intro hr calls
    have hc := channels_serveAll hf hr calls
    rw [hrun calls, hc]
    exact applyRemovals_of_subset (fun _ hi => hi) catalog

def repeatedId : String := "[[\"d\",\"x\",true,5,5],[\"d\",\"y\",true,6,6]]"

theorem load_repeatedId : Catalog.load (.file repeatedId.toUTF8) =
    .ok [.ofCounts "d" "x" 5 5, .ofCounts "d" "y" 6 6] := by
  decide +kernel

theorem repeatedId_not_republished :
    let file := .file repeatedId.toUTF8
    let s : Store := { backed := true, channels := [.ofCounts "d" "x" 5 5, .ofCounts "d" "y" 6 6] }
    Store.open file = .ok s ∧ ¬ RepeatsBare s.channels ∧
      ¬ (s.serveAll file [.remove "d"]).Republishes file ∧
      ¬ ∀ calls, (s.serveAll file calls).Republishes file := by
  intro file s
  have ho : Store.open file = .ok s := open_eq_ok_iff.mpr ⟨load_repeatedId, rfl⟩
  have hr : ¬ RepeatsBare s.channels := by decide
  have hiff := republishes_iff_repeatsBare ho
  refine ⟨ho, hr, fun h => ?_, fun h => hr (hiff.2.mp h)⟩
  have hb := (hiff.1 [.remove "d"]).mp h (.ofCounts "d" "y" 6 6) (by decide) (by decide)
  exact absurd hb (by decide)

end Store

end DeviceChannels
