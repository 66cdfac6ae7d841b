import DeviceChannels.Channel
import DeviceChannels.Proofs.ByteOrder

/-! The order of the display list. Ordered by name, and with the channels of each name in the order of
the collection, there is only one list. -/

namespace DeviceChannels

def Ordered (cs : List Channel) : Prop := cs.Pairwise fun a b => a.name ≤ b.name

def named (name : String) (cs : List Channel) : List Channel := cs.filter fun c => c.name = name

theorem mem_named {name : String} {c : Channel} {cs : List Channel} :
    c ∈ named name cs ↔ c ∈ cs ∧ c.name = name := by
  simp [named]

theorem named_cons_self (c : Channel) (cs : List Channel) :
    named c.name (c :: cs) = c :: named c.name cs := by
  simp [named]

theorem named_filter (name : String) (p : Channel → Bool) (cs : List Channel) :
    named name (cs.filter p) = (named name cs).filter p := by
  simp only [named, List.filter_filter, Bool.and_comm]

theorem Ordered.head_le {c d : Channel} {cs ds : List Channel} (h : Ordered (c :: cs))
    (hclass : named d.name (c :: cs) = named d.name (d :: ds)) : c.name ≤ d.name := by
  have hd : d ∈ c :: cs := by
    have hm : d ∈ named d.name (c :: cs) := by simp [hclass, named_cons_self]
    exact (mem_named.mp hm).1
  rcases List.mem_cons.mp hd with rfl | hm
  · exact String.le_refl _
  · exact List.rel_of_pairwise_cons h hm

theorem Ordered.eq_of_named {cs ds : List Channel} (hc : Ordered cs) (hd : Ordered ds)
    (hclass : ∀ name, named name cs = named name ds) : cs = ds := by
  induction cs generalizing ds with
  | nil =>
    cases ds with
    | nil => rfl
    | cons d ds =>
      have hnil := hclass d.name
      rw [named_cons_self] at hnil
      cases hnil
  | cons c cs ih =>
    cases ds with
    | nil =>
      have hnil := hclass c.name
      rw [named_cons_self] at hnil
      cases hnil
    | cons d ds =>
      have hle := hc.head_le (hclass d.name)
      have hge := hd.head_le (hclass c.name).symm
      have hname : c.name = d.name := String.le_antisymm hle hge
      have hheads := hclass c.name
      rw [named_cons_self, hname, named_cons_self] at hheads
      obtain ⟨rfl, _⟩ := List.cons.inj hheads
      refine congrArg (c :: ·) (ih (List.pairwise_cons.mp hc).2 (List.pairwise_cons.mp hd).2 ?_)
      intro name
      have hrest := hclass name
      by_cases hn : c.name = name
      · simpa [named, hn] using hrest
      · simpa [named, hn] using hrest

section

variable (cs : List Channel)

theorem perm_displayList : (displayList cs).Perm (cs.filter Channel.isOnDevice) :=
  List.mergeSort_perm _ _

theorem mem_displayList {c : Channel} : c ∈ displayList cs ↔ c ∈ cs ∧ c.isOnDevice := by
  rw [(perm_displayList cs).mem_iff, List.mem_filter]

theorem nameLE_trans (a b c : Channel) (hab : decide (a.name ≤ b.name) = true)
    (hbc : decide (b.name ≤ c.name) = true) : decide (a.name ≤ c.name) = true := by
  rw [decide_eq_true_eq] at hab hbc ⊢
  exact String.le_trans hab hbc

theorem nameLE_total (a b : Channel) :
    (decide (a.name ≤ b.name) || decide (b.name ≤ a.name)) = true := by
  rw [Bool.or_eq_true, decide_eq_true_eq, decide_eq_true_eq]
  exact String.le_total a.name b.name

theorem ordered_displayList : Ordered (displayList cs) := by
  have h := List.pairwise_mergeSort nameLE_trans nameLE_total (cs.filter Channel.isOnDevice)
  exact h.imp of_decide_eq_true

/-- The order among channels of one name is that of the collection. -/
theorem named_displayList (name : String) :
    named name (displayList cs) = named name (cs.filter Channel.isOnDevice) := by
  let shown := cs.filter Channel.isOnDevice
  have hequal : (named name shown).Pairwise fun a b => decide (a.name ≤ b.name) = true := by
    apply List.pairwise_of_forall_mem_list
    intro a ha b hb
    have hab : a.name = b.name := (mem_named.mp ha).2.trans (mem_named.mp hb).2.symm
    exact decide_eq_true (hab ▸ String.le_refl a.name)
  have hsub : (named name shown).Sublist (displayList cs) :=
    List.sublist_mergeSort nameLE_trans nameLE_total hequal List.filter_sublist
  have hfiltered : (named name (named name shown)).Sublist (named name (displayList cs)) :=
    hsub.filter _
  have hself : named name (named name shown) = named name shown := by simp [named]
  rw [hself] at hfiltered
  have hperm : (named name (displayList cs)).Perm (named name shown) :=
    (perm_displayList cs).filter _
  exact (hfiltered.eq_of_length hperm.length_eq.symm).symm

end

theorem eq_displayList_iff {cs ds : List Channel} :
    ds = displayList cs ↔
      Ordered ds ∧ ∀ name, named name ds = named name (cs.filter Channel.isOnDevice) := by
  constructor
  · rintro rfl
    exact ⟨ordered_displayList cs, named_displayList cs⟩
  · rintro ⟨ho, hclass⟩
    refine ho.eq_of_named (ordered_displayList cs) fun name => ?_
    rw [hclass, named_displayList]

theorem displayList_of_ordered {cs : List Channel} (h : Ordered (cs.filter Channel.isOnDevice)) :
    displayList cs = cs.filter Channel.isOnDevice :=
  (eq_displayList_iff.mpr ⟨h, fun _ => rfl⟩).symm

theorem ordered_iff_bytes {cs : List Channel} :
    Ordered cs ↔ cs.Pairwise fun a b => Text.bytes a.name ≤ Text.bytes b.name := by
  simp only [Ordered, Text.bytes_le_iff]

theorem filter_isOnDevice_displayList (cs : List Channel) :
    (displayList cs).filter Channel.isOnDevice = displayList cs :=
  List.filter_eq_self.mpr fun _ hc => ((mem_displayList cs).mp hc).2

/-- The display list is the only one that is ordered by the bytes of the names and has, for each
name, the channels of that name that are on the device in the order of the collection. To derive it
from itself changes nothing. -/
theorem displayList_determined (cs : List Channel) :
    (∀ ds, ds = displayList cs ↔
      (ds.Pairwise fun a b => Text.bytes a.name ≤ Text.bytes b.name) ∧
        ∀ name, ds.filter (fun c => c.name = name) =
          cs.filter fun c => c.name = name ∧ 0 < c.onDeviceResources) ∧
      displayList (displayList cs) = displayList cs := by
  refine ⟨fun ds => ?_, ?_⟩
  · have hclass (name : String) : named name (cs.filter Channel.isOnDevice) =
        cs.filter fun c => c.name = name ∧ 0 < c.onDeviceResources := by
      rw [named, List.filter_filter]
      exact List.filter_congr fun c _ => by simp [Channel.isOnDevice]
    rw [eq_displayList_iff, ordered_iff_bytes]
    exact and_congr_right fun _ => forall_congr' fun name => by rw [hclass, named]
  · have hordered : Ordered ((displayList cs).filter Channel.isOnDevice) := by
      rw [filter_isOnDevice_displayList]
      exact ordered_displayList cs
    rw [displayList_of_ordered hordered, filter_isOnDevice_displayList]

end DeviceChannels
