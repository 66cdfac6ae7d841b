import DeviceChannels.Proofs.HelpPaging
import DeviceChannels.Proofs.OverlayExclusion

/-! Scrolling through the help key by key. The offset that the application keeps knows no end;
drawing stops at the last one. So a key that goes up does not show until all is taken back that was
pressed past the end. -/

namespace DeviceChannels

open HelpOverlay

/-- Drawn on a screen of any size, the help looks the same. -/
structure App.SameHelp (a a' : App) : Prop where
  is_open : a'.helpOpen = a.helpOpen
  scroll : a'.helpScroll = a.helpScroll
  keymap : a'.keymap = a.keymap

theorem App.sameHelp_handle (a : App) (now : Nat) (snapshot : List Channel) (event : Event) :
    a.SameHelp (a.handle now snapshot event) := by
  cases event with
  | taskPanicked task _ => cases task <;> exact ⟨rfl, rfl, rfl⟩
  | _ => exact ⟨rfl, rfl, rfl⟩

namespace HelpOverlay

/-- What an act of a run means to the open help. The interrupt does not get that far. -/
def actionOf (m : Keymap) : Flight.Act → Option Action
  | .turn (.press key) => if Session.isInterrupt key then none else m.actionFor .help key
  | _ => none

theorem actionOf_eq_none {a : Flight.Act} (ha : ∀ key, a ≠ .turn (.press key)) (m : Keymap) :
    actionOf m a = none := by
  cases a with
  | turn t =>
    cases t with
    | press key => exact absurd rfl (ha key)
    | _ => rfl
  | _ => rfl

theorem exists_key_iff {m : Keymap} {action : Action} :
    (∃ key, actionOf m (.turn (.press key)) = some action) ↔ ∃ a, actionOf m a = some action := by
  constructor
  · rintro ⟨key, h⟩
    exact ⟨_, h⟩
  · rintro ⟨a, h⟩
    by_cases hpress : ∃ key, a = .turn (.press key)
    · obtain ⟨key, rfl⟩ := hpress
      exact ⟨key, h⟩
    · rw [actionOf_eq_none (not_exists.mp hpress)] at h
      cases h

/-- What an action makes of the offset that is kept. -/
def moved (scroll : Nat) : Option Action → Nat
  | some .navDown => scroll + 1
  | some .navUp => scroll - 1
  | _ => scroll

/-- What an action makes of a counter between 0 and `last`. -/
def counted (last n : Nat) : Option Action → Nat
  | some .navDown => min (n + 1) last
  | some .navUp => n - 1
  | _ => n

def scrollFrom (m : Keymap) (scroll : Nat) (acts : List Flight.Act) : Nat :=
  acts.foldl (fun scroll a => moved scroll (actionOf m a)) scroll

def counter (m : Keymap) (last : Nat) (acts : List Flight.Act) : Nat :=
  acts.foldl (fun n a => counted last n (actionOf m a)) 0

/-- No act of a run closes the help. -/
def Stays (m : Keymap) (acts : List Flight.Act) : Prop :=
  ∀ a ∈ acts, actionOf m a ≠ some .closeHelp

variable {m : Keymap} {last : Nat} {acts : List Flight.Act}

theorem scrollFrom_concat (m : Keymap) (scroll : Nat) (acts : List Flight.Act) (a : Flight.Act) :
    scrollFrom m scroll (acts ++ [a]) = moved (scrollFrom m scroll acts) (actionOf m a) := by
  simp [scrollFrom]

theorem counter_concat (m : Keymap) (last : Nat) (acts : List Flight.Act) (a : Flight.Act) :
    counter m last (acts ++ [a]) = counted last (counter m last acts) (actionOf m a) := by
  simp [counter]

/-- Where the offset on the screen is that of the counter, only going up from past the end parts
them. -/
theorem min_moved_eq_counted_iff (last scroll : Nat) (action : Option Action) :
    min (moved scroll action) last = counted last (min scroll last) action ↔
      last = 0 ∨ (action = some .navUp → scroll ≤ last) := by
  cases action with
  | none => simp [moved, counted]
  | some action =>
    cases action with
    | navDown =>
      have hdown : min (scroll + 1) last = min (min scroll last + 1) last := by omega
      simp [moved, counted, hdown]
    | navUp =>
      simp only [moved, counted, eq_self, forall_const]
      omega
    | _ => simp [moved, counted]

/-- The offset on the screen is that of the counter all along a run exactly if no key goes up from
past the end. -/
theorem agrees_iff (m : Keymap) (last : Nat) (acts : List Flight.Act) :
    (∀ before, before <+: acts → min (scrollFrom m 0 before) last = counter m last before) ↔
      last = 0 ∨ ∀ before a, before ++ [a] <+: acts → actionOf m a = some .navUp →
        scrollFrom m 0 before ≤ last := by
  constructor
  · intro h
    by_cases hlast : last = 0
    · exact .inl hlast
    · refine .inr fun before a hpre => ?_
      have hbefore := h before ((List.prefix_append _ _).trans hpre)
      have hafter := h (before ++ [a]) hpre
      rw [scrollFrom_concat, counter_concat, ← hbefore] at hafter
      exact ((min_moved_eq_counted_iff _ _ _).mp hafter).resolve_left hlast
  · intro h before hpre
    induction before using List.reverseRecOn with
    | nil => simp [scrollFrom, counter]
    | append_singleton before a ih =>
      rw [scrollFrom_concat, counter_concat, ← ih ((List.prefix_append _ _).trans hpre)]
      exact (min_moved_eq_counted_iff _ _ _).mpr (h.imp_right fun hup => hup before a hpre)

theorem scrollFrom_eq_zero (h : ∀ a, actionOf m a ≠ some .navDown) (acts : List Flight.Act) :
    scrollFrom m 0 acts = 0 := by
  induction acts using List.reverseRecOn with
  | nil => rfl
  | append_singleton acts a ih =>
    rw [scrollFrom_concat, ih]
    cases ha : actionOf m a with
    | none => rfl
    | some action =>
      cases action with
      | navDown => exact absurd ha (h a)
      | _ => rfl

theorem scrollFrom_replicate {a : Flight.Act} (ha : actionOf m a = some .navDown) (n : Nat) :
    scrollFrom m 0 (List.replicate n a) = n := by
  induction n with
  | zero => rfl
  | succ n ih => rw [List.replicate_succ', scrollFrom_concat, ih, ha, moved]

/-- In all runs the two agree exactly if there is nothing to scroll, or nothing scrolls in one of
the two directions. -/
theorem forall_agrees_iff (m : Keymap) (last : Nat) :
    (∀ acts, Stays m acts → min (scrollFrom m 0 acts) last = counter m last acts) ↔
      last = 0 ∨ (∀ a, actionOf m a ≠ some .navDown) ∨ ∀ a, actionOf m a ≠ some .navUp := by
  constructor
  · intro h
    by_contra hn
    simp only [not_or, not_forall, not_not] at hn
    obtain ⟨hlast, ⟨down, hdown⟩, up, hup⟩ := hn
    -- One press past the last offset, and one back.
    have hstays : Stays m (List.replicate (last + 1) down ++ [up]) := by
      intro a ha
      rcases List.mem_append.mp ha with ha | ha
      · rw [List.eq_of_mem_replicate ha, hdown]
        decide
      · rw [List.mem_singleton.mp ha, hup]
        decide
    have hall := (agrees_iff m last (List.replicate (last + 1) down ++ [up])).mp
      fun before hpre => h before fun a ha => hstays a (hpre.subset ha)
    have hpast := hall.resolve_left hlast _ up (List.prefix_refl _) hup
    rw [scrollFrom_replicate hdown] at hpast
    omega
  · intro h acts _
    refine (agrees_iff m last acts).mpr ?_ acts (List.prefix_refl _)
    rcases h with hlast | hdown | hup
    · exact .inl hlast
    · exact .inr fun before _ _ _ => by simp [scrollFrom_eq_zero hdown before]
    · exact .inr fun _ a _ ha => absurd ha (hup a)

end HelpOverlay

namespace Session

variable {s s' : Session} {t : Turn}

theorem sameHelp_spawnRefresh (s : Session) : s.app.SameHelp s.spawnRefresh.app := by
  by_cases h : s.app.grid.loading <;> simp only [spawnRefresh, h] <;> exact ⟨rfl, rfl, rfl⟩

theorem Turned.sameHelp (h : Turned s t s') (hpress : ∀ key, t ≠ .press key) :
    s.app.SameHelp s'.app := by
  cases h with
  | aside aside =>
    obtain ⟨_, _, _, _, happ⟩ := aside.app
    rw [happ]
    exact ⟨rfl, rfl, rfl⟩
  | pressed key turn _ => exact absurd turn (hpress key)
  | refreshed _ => exact s.sameHelp_spawnRefresh
  | handled event left _ => exact s.app.sameHelp_handle _ _ _
  | shown channels _ _ => exact ⟨rfl, rfl, rfl⟩

theorem Pressed.opens (h : s.Pressed s') (hclosed : s.app.helpOpen = false)
    (hopened : s'.app.helpOpen = true) :
    s'.app.helpScroll = 0 ∧ s'.app.keymap = s.app.keymap := by
  have stays (h : s'.app.helpOpen = s.app.helpOpen) : False :=
    Bool.false_ne_true (hclosed.symm.trans (h.symm.trans hopened))
  cases h with
  | helpOpened _ => exact ⟨rfl, rfl⟩
  | help _ _ is_open => exact absurd (hclosed.symm.trans is_open) Bool.false_ne_true
  | refreshed _ => exact (stays s.spawnRefresh_keeps.1).elim
  | ignored | confirmed _ _ _ _ _ _ | cancelled _ _ | moved _ _ | requested _ _ _ =>
    exact (stays rfl).elim

theorem press_in_help (hopen : s.app.helpOpen = true) {key : Key}
    (hstays : actionOf s.app.keymap (.turn (.press key)) ≠ some .closeHelp) :
    (s.press key).1.app.helpOpen = true ∧ (s.press key).1.app.keymap = s.app.keymap ∧
      (s.press key).1.app.helpScroll =
        moved s.app.helpScroll (actionOf s.app.keymap (.turn (.press key))) := by
  by_cases hi : isInterrupt key = true
  · simp [press, hi, hopen, actionOf, moved]
  · cases hk : s.app.keymap.actionFor .help key with
    | none => simp [press, hi, hopen, pressInHelp, hk, actionOf, moved]
    | some action =>
      cases action with
      | closeHelp => exact absurd (by simp [actionOf, hi, hk]) hstays
      | _ => simp [press, hi, hopen, pressInHelp, hk, actionOf, moved]

end Session

namespace Flight

variable {f : Flight} {m : Keymap} {scroll : Nat} {acts : List Act}

/-- The help is open and scrolled that far. -/
structure InHelp (f : Flight) (m : Keymap) (scroll : Nat) : Prop where
  tasks : f.session.tasks = []
  is_open : f.session.app.helpOpen = true
  keymap : f.session.app.keymap = m
  scroll : f.session.app.helpScroll = scroll

theorem sameHelp_act (hf : f.session.tasks = []) {a : Act} (ha : ∀ key, a ≠ .turn (.press key)) :
    f.session.app.SameHelp (f.act a).session.app := by
  rcases f.act_cases a with ⟨t, rfl⟩ | ⟨happ, _⟩
  · exact (f.session.turned_turn hf t).sameHelp fun key h => ha key (congrArg Act.turn h)
  · rw [happ]
    exact ⟨rfl, rfl, rfl⟩

theorem InHelp.act (h : f.InHelp m scroll) {a : Act} (ha : actionOf m a ≠ some .closeHelp) :
    (f.act a).InHelp m (moved scroll (actionOf m a)) := by
  obtain ⟨htasks, hopen, rfl, rfl⟩ := h
  have htasks' := act_tasks htasks a
  by_cases hpress : ∃ key, a = .turn (.press key)
  · obtain ⟨key, rfl⟩ := hpress
    obtain ⟨hopen', hkeymap, hscroll⟩ := f.session.press_in_help hopen ha
    exact ⟨htasks', hopen', hkeymap, hscroll⟩
  · have hsame := sameHelp_act htasks (not_exists.mp hpress)
    rw [actionOf_eq_none (not_exists.mp hpress)]
    exact ⟨htasks', hsame.is_open.trans hopen, hsame.keymap, hsame.scroll⟩

theorem InHelp.play (h : f.InHelp m scroll) (hstays : Stays m acts) :
    (f.play acts).InHelp m (scrollFrom m scroll acts) := by
  induction acts generalizing f scroll with
  | nil => exact h
  | cons a acts ih =>
    obtain ⟨ha, hrest⟩ := List.forall_mem_cons.mp hstays
    exact ih (h.act ha) hrest

/-- A key has opened the help. -/
theorem inHelp_of_opens (hf : f.session.tasks = []) (hclosed : f.session.app.helpOpen = false)
    {key : Key} (hopened : (f.act (.turn (.press key))).session.app.helpOpen = true) :
    (f.act (.turn (.press key))).InHelp f.session.app.keymap 0 := by
  obtain ⟨hscroll, hkeymap⟩ := (f.session.pressed_press key).opens hclosed hopened
  exact ⟨act_tasks hf _, hopened, hkeymap, hscroll⟩

end Flight

/-- While the help is open the offset on the screen is the one that is kept, cut at the last. It is
that of a counter between 0 and the last offset exactly as long as no key goes up from past the end;
so for all runs, if there is nothing to scroll or no key scrolls in one of the two directions. -/
theorem HelpOverlay.scroll_is_counter_iff (f : Flight) (hf : f.session.tasks = []) (opener : Key)
    (hclosed : f.session.app.helpOpen = false)
    (hopened : (f.act (.turn (.press opener))).session.app.helpOpen = true) (w h : Nat) :
    let m := f.session.app.keymap
    let last := lastOffset (area ⟨0, 0, w, h⟩) (rows m).length
    let shown (acts : List Flight.Act) : App :=
      ((f.act (.turn (.press opener))).play acts).session.app
    let visible (acts : List Flight.Act) : Nat :=
      offset (area ⟨0, 0, w, h⟩) (rows (shown acts).keymap).length (shown acts).helpScroll
    let scrolls (action : Action) : Prop :=
      ∃ key, actionOf m (.turn (.press key)) = some action
    (∀ acts, Stays m acts → (shown acts).helpOpen = true ∧
      visible acts = min (scrollFrom m 0 acts) last ∧
      ((∀ before, before <+: acts → visible before = counter m last before) ↔
        last = 0 ∨ ∀ before a, before ++ [a] <+: acts → actionOf m a = some .navUp →
          scrollFrom m 0 before ≤ last)) ∧
      ((∀ acts, Stays m acts → visible acts = counter m last acts) ↔
        last = 0 ∨ ¬ scrolls .navDown ∨ ¬ scrolls .navUp) := by
  intro m last shown visible scrolls
  have hstart := Flight.inHelp_of_opens hf hclosed hopened
  have hvisible {acts : List Flight.Act} (hacts : Stays m acts) :
      visible acts = min (scrollFrom m 0 acts) last := by
    have hend := hstart.play hacts
    simp only [visible, shown, hend.keymap, hend.scroll]
    rfl
  refine ⟨fun acts hacts => ⟨(hstart.play hacts).is_open, hvisible hacts, ?_⟩, ?_⟩
  · rw [← agrees_iff]
    refine forall₂_congr fun before hpre => ?_
    rw [hvisible fun a ha => hacts a (hpre.subset ha)]
  · have hkeys (action : Action) : ¬ scrolls action ↔ ∀ a, actionOf m a ≠ some action :=
      (not_congr exists_key_iff).trans not_exists
    rw [hkeys, hkeys, ← forall_agrees_iff]
    exact forall₂_congr fun acts hacts => by rw [hvisible hacts]

/-- The listing of the default keys has two offsets here. The second press of the key that goes down
does nothing on the screen, and after it the key that goes up does nothing either. -/
theorem HelpOverlay.up_after_two_downs_stays :
    let f : Flight := (Session.start {} .missing (.inMemory [])).flight
    let press (c : Char) : Flight.Act := .turn (.press { code := .char c })
    let m := f.session.app.keymap
    let a := area ⟨0, 0, 80, 45⟩
    let last := lastOffset a (rows m).length
    let visible (acts : List Flight.Act) : Nat :=
      let shown := ((f.act (press '?')).play acts).session.app
      offset a (rows shown.keymap).length shown.helpScroll
    let acts := [press 'j', press 'j', press 'k']
    f.session.tasks = [] ∧ f.session.app.helpOpen = false ∧
      (f.act (press '?')).session.app.helpOpen = true ∧ Stays m acts ∧ last = 1 ∧
      visible acts = 1 ∧ counter m last acts = 0 ∧
      ¬ ∀ acts, Stays m acts → visible acts = counter m last acts := by
  intro f press m a last visible acts
  have hclosed : f.session.app.helpOpen = false := rfl
  have hopened : (f.act (press '?')).session.app.helpOpen = true := by decide +kernel
  have hstays : Stays m acts := by
    unfold Stays
    decide +kernel
  have hlast : last = 1 := by decide +kernel
  obtain ⟨hruns, hall⟩ := scroll_is_counter_iff f rfl { code := .char '?' } hclosed hopened 80 45
  have hvisible : visible acts = min (scrollFrom m 0 acts) last := (hruns acts hstays).2.1
  have hone : min (scrollFrom m 0 acts) last = 1 := by decide +kernel
  have hzero : counter m last acts = 0 := by decide +kernel
  refine ⟨rfl, hclosed, hopened, hstays, hlast, hvisible.trans hone, hzero, fun h => ?_⟩
  have hdiffer := h acts hstays
  omega

end DeviceChannels
