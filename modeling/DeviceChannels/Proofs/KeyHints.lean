import DeviceChannels.Proofs.KeyPress
import DeviceChannels.Proofs.KeyReach
import DeviceChannels.Proofs.PromptLine

/-! What the screen says about keys. A hint of the status bar names a key by its text as one context
has it, and the press is looked up in the context that has the keys. The prompt of a confirmation
names a key even where none confirms. -/

namespace DeviceChannels

namespace Keymap

variable {m : Keymap} {configs : List (List (String × String))} {c : Context} {action : Action}
  {t : String}

/-- The text of a bound key, read back, gives a key that does what it is bound to. -/
theorem exists_key_of_mem_keysFor (h : t ∈ (overridden configs).keysFor c action) :
    ∃ key, Key.ofText? t = some key ∧ ⟨c, key, action⟩ ∈ (overridden configs).bindings := by
  obtain ⟨key, hb, rfl⟩ := mem_keysFor.mp h
  have hread : Key.ofText? key.text = some key :=
    ofText?_text_of_mem configs ⟨c, key, action⟩ hb
  exact ⟨key, hread, hb⟩

theorem exists_actionFor_confirm_iff :
    (∃ key, (overridden configs).actionFor .confirm key = some action) ↔
      (overridden configs).keysFor .confirm action ≠ [] := by
  rw [ne_eq, List.eq_nil_iff_forall_not_mem, not_forall_not]
  constructor
  · rintro ⟨key, hkey⟩
    rcases (coherent_overridden configs).actionFor_eq_some_iff.mp hkey with hb | ⟨hc, _⟩
    · exact ⟨_, mem_keysFor.mpr ⟨_, hb, rfl⟩⟩
    · cases hc
  · rintro ⟨t, ht⟩
    obtain ⟨key, hb, _⟩ := mem_keysFor.mp ht
    exact ⟨key, actionFor_of_mem hb⟩

end Keymap

namespace Session

/-- The context that has the keys while the help is closed. -/
def keyContext (s : Session) : Context :=
  if s.app.grid.pending.isSome then .confirm else .channelList

/-- What a press means while the help is closed. The interrupt quits, whatever it is bound to. -/
def pressedAction (s : Session) (key : Key) : Option Action :=
  if isInterrupt key then some .quit else s.app.keymap.actionFor s.keyContext key

variable {s : Session} {configs : List (List (String × String))} {key other : Key}

theorem pressInConfirm_congr
    (h : s.app.keymap.actionFor .confirm key = s.app.keymap.actionFor .confirm other) :
    s.pressInConfirm key = s.pressInConfirm other := by
  simp only [pressInConfirm, h]

theorem pressInList_congr
    (h : s.app.keymap.actionFor .channelList key = s.app.keymap.actionFor .channelList other) :
    s.pressInList key = s.pressInList other := by
  simp only [pressInList, h]

theorem actionFor_confirm_ne_quit :
    (Keymap.overridden configs).actionFor .confirm key ≠ some .quit := by
  have hdefault : .confirm ∉ Keymap.default.contextsOf .quit := by decide
  intro hq
  rcases (Keymap.coherent_overridden configs).actionFor_eq_some_iff.mp hq with hb | ⟨hc, _⟩
  · exact hdefault (Keymap.contextsOf_overridden_subset configs _
      (Keymap.mem_contextsOf.mpr ⟨_, hb⟩))
  · cases hc

theorem press_of_quit (hkeys : s.app.keymap = Keymap.overridden configs)
    (hclosed : s.app.helpOpen = false) (h : s.pressedAction key = some .quit) :
    s.press key = (s, true) := by
  by_cases hi : isInterrupt key = true
  · simp [press, hi]
  by_cases hp : s.app.grid.pending.isSome = true
  · have hconfirm : (Keymap.overridden configs).actionFor .confirm key = some .quit := by
      simpa [pressedAction, hi, keyContext, hp, hkeys] using h
    exact absurd hconfirm actionFor_confirm_ne_quit
  · have hlist : s.app.keymap.actionFor .channelList key = some .quit := by
      simpa [pressedAction, hi, keyContext, hp] using h
    simp [press, hi, hclosed, hp, pressInList, hlist]

/-- What a press does depends on what it means only. -/
theorem press_congr (hkeys : s.app.keymap = Keymap.overridden configs)
    (hclosed : s.app.helpOpen = false) (h : s.pressedAction key = s.pressedAction other) :
    s.press key = s.press other := by
  by_cases hq : s.pressedAction key = some .quit
  · rw [press_of_quit hkeys hclosed hq, press_of_quit hkeys hclosed (h ▸ hq)]
  have hi : isInterrupt key = false := by
    by_contra hi
    exact hq (by simp [pressedAction, hi])
  have ho : isInterrupt other = false := by
    by_contra ho
    exact hq (h.trans (by simp [pressedAction, ho]))
  simp only [pressedAction, hi, ho, keyContext] at h
  by_cases hp : s.app.grid.pending.isSome = true
  · have hsame : s.pressInConfirm key = s.pressInConfirm other :=
      pressInConfirm_congr (by simpa [hp] using h)
    simp [press, hi, ho, hclosed, hp, hsame]
  · have hsame : s.pressInList key = s.pressInList other :=
      pressInList_congr (by simpa [hp] using h)
    simp [press, hi, ho, hclosed, hp, hsame]

/-- A bound key has its action where its context has the keys. A key that is global has it on the
channel list as long as it deletes nothing there. -/
theorem actionFor_keyContext_iff {action : Action} {context : Context}
    (hb : ⟨context, key, action⟩ ∈ (Keymap.overridden configs).bindings)
    (hcontext : context = s.keyContext ∨
      context = .global ∧ s.keyContext = .channelList ∧ action ≠ .deleteChannel) :
    (Keymap.overridden configs).actionFor s.keyContext key = some action ↔
      (context = .global →
        ⟨.channelList, key, .deleteChannel⟩ ∉ (Keymap.overridden configs).bindings) := by
  have hkey : key.normalized = key := Key.normalized_of_shift (Keymap.shift_of_mem configs _ hb)
  have hlist {a : Action} (ha : ⟨.channelList, key, a⟩ ∈ (Keymap.overridden configs).bindings) :
      a = .deleteChannel :=
    Keymap.eq_deleteChannel_of_channelList (Keymap.mem_contextsOf.mpr ⟨key, ha⟩)
  rcases hcontext with hc | ⟨rfl, hc, hne⟩
  · have hglobal : context ≠ .global := by
      rw [hc, keyContext]
      split <;> simp
    rw [hc] at hb
    simp [Keymap.actionFor_of_mem hb, hglobal]
  · rw [hc, (Keymap.coherent_overridden configs).actionFor_eq_some_iff, hkey]
    constructor
    · rintro (ha | ⟨_, hnone, _⟩) _ hd
      · exact hne (hlist ha)
      · exact hnone _ hd
    · intro hnone
      exact .inr ⟨rfl, fun a ha => hnone rfl (hlist ha ▸ ha), hb⟩

end Session

namespace StatusBar

/-- A hint with the action that its label stands for and the context whose bindings name its key. -/
structure Offer where
  context : Context
  action : Action
  hint : Hint
  deriving DecidableEq

def offersIn (m : Keymap) (context : Context) (actions : List (Action × String)) : List Offer :=
  actions.filterMap fun a => (m.keysFor context a.1).head?.map fun key => ⟨context, a.1, key, a.2⟩

/-- The groups of hints that the bar writes one after the other. -/
def offers (app : App) : List (List Offer) :=
  if app.grid.pending.isSome then [offersIn app.keymap .confirm confirmActions]
  else if app.grid.loading then []
  else
    [offersIn app.keymap .channelList listActions, offersIn app.keymap .global globalActions]

theorem map_hint_offersIn (m : Keymap) (context : Context) (actions : List (Action × String)) :
    (offersIn m context actions).map Offer.hint = hints m context actions := by
  simp [offersIn, hints, List.map_filterMap, Function.comp_def]

theorem text_eq (app : App) (h : app.status = none) :
    text app = if (offers app).isEmpty then "Refreshing..."
      else " ".intercalate ((offers app).map fun g => hintText (g.map Offer.hint)) := by
  by_cases hp : app.grid.pending.isSome = true
  · simp [text, h, offers, hp, map_hint_offersIn]
  · by_cases hl : app.grid.loading = true
    · simp [text, h, offers, hp, hl]
    · simp [text, h, offers, hp, hl, map_hint_offersIn]

theorem exists_binding_of_mem_offersIn {configs : List (List (String × String))}
    {context : Context} {actions : List (Action × String)} {o : Offer}
    (h : o ∈ offersIn (Keymap.overridden configs) context actions) :
    o.context = context ∧ o.action ∈ actions.map Prod.fst ∧
      ∃ key, Key.ofText? o.hint.key = some key ∧
        ⟨o.context, key, o.action⟩ ∈ (Keymap.overridden configs).bindings := by
  obtain ⟨a, ha, hfirst⟩ := List.mem_filterMap.mp h
  obtain ⟨t, ht, rfl⟩ := Option.map_eq_some_iff.mp hfirst
  exact ⟨rfl, List.mem_map_of_mem ha, Keymap.exists_key_of_mem_keysFor (List.mem_of_head? ht)⟩

/-- With the help closed and no message to show, the bar names keys that are bound to what their
labels stand for. Such a key does that when it is pressed, unless it is the interrupt, which quits,
or the bar took it from the global bindings and the channel list deletes with it. -/
theorem hint_holds_iff (configs : List (List (String × String))) (s : Session)
    (hkeys : s.app.keymap = Keymap.overridden configs) (hstatus : s.app.status = none)
    (hclosed : s.app.helpOpen = false) :
    (text s.app = if (offers s.app).isEmpty then "Refreshing..."
      else " ".intercalate ((offers s.app).map fun g => hintText (g.map Offer.hint))) ∧
      (∀ key other, s.pressedAction key = s.pressedAction other → s.press key = s.press other) ∧
      ∀ g ∈ offers s.app, ∀ o ∈ g, ∃ key, Key.ofText? o.hint.key = some key ∧
        ⟨o.context, key, o.action⟩ ∈ s.app.keymap.bindings ∧
        (s.pressedAction key = some o.action ↔
          if Session.isInterrupt key then o.action = .quit
          else o.context = .global →
            ⟨.channelList, key, .deleteChannel⟩ ∉ s.app.keymap.bindings) := by
  refine ⟨text_eq s.app hstatus, fun _ _ h => Session.press_congr hkeys hclosed h, ?_⟩
  intro g hg o ho
  have hoffer : ∃ context actions, o ∈ offersIn (Keymap.overridden configs) context actions ∧
      (context = s.keyContext ∨
        context = .global ∧ s.keyContext = .channelList ∧
          .deleteChannel ∉ actions.map Prod.fst) := by
    by_cases hp : s.app.grid.pending.isSome = true
    · simp only [offers, hp, if_true, List.mem_singleton, hkeys] at hg
      exact ⟨_, _, hg ▸ ho, .inl (by simp [Session.keyContext, hp])⟩
    · by_cases hl : s.app.grid.loading = true
      · simp [offers, hp, hl] at hg
      · simp only [offers, hp, hl, hkeys] at hg
        rcases List.mem_pair.mp hg with rfl | rfl
        · exact ⟨_, _, ho, .inl (by simp [Session.keyContext, hp])⟩
        · exact ⟨_, _, ho, .inr ⟨rfl, by simp [Session.keyContext, hp], by decide⟩⟩
  obtain ⟨context, actions, hmem, hcontext⟩ := hoffer
  obtain ⟨rfl, haction, key, hread, hb⟩ := exists_binding_of_mem_offersIn hmem
  refine ⟨key, hread, hkeys ▸ hb, ?_⟩
  by_cases hi : Session.isInterrupt key = true
  · simp [Session.pressedAction, hi, eq_comm]
  · have hiff := Session.actionFor_keyContext_iff hb (hcontext.imp_right fun h =>
      ⟨h.1, h.2.1, fun hd => h.2.2 (hd ▸ haction)⟩)
    simpa [Session.pressedAction, hi, hkeys] using hiff

/-- The channel list deletes with the only key of the refresh, and the help is bound to the
interrupt. The bar has a hint for either; neither does what it says. -/
theorem refresh_hint_deletes :
    let entries := [("delete", "r"), ("help", "Ctrl+c")]
    let s : Session := .start { keybindings := entries } .missing (.inMemory [])
    let g := offersIn s.app.keymap .global globalActions
    let refresh : Offer := ⟨.global, .refresh, "r", "refresh"⟩
    let help : Offer := ⟨.global, .showHelp, "Ctrl+c", "help"⟩
    s.app.keymap = Keymap.overridden [entries] ∧ s.app.status = none ∧ s.app.helpOpen = false ∧
      text s.app = "[r] delete [r] refresh [Ctrl+c] help [q] quit" ∧
      g ∈ offers s.app ∧ refresh ∈ g ∧ help ∈ g ∧
      (∃ key, Key.ofText? "r" = some key ∧ s.pressedAction key = some .deleteChannel ∧
        s.pressedAction key ≠ some .refresh) ∧
      ∃ key, Key.ofText? "Ctrl+c" = some key ∧ s.pressedAction key = some .quit ∧
        s.pressedAction key ≠ some .showHelp := by
  intro entries s g refresh help
  have hg : g ∈ offers s.app := by decide +kernel
  have hrefresh : refresh ∈ g := by decide +kernel
  have hhelp : help ∈ g := by decide +kernel
  have hr : Key.ofText? "r" = some { code := .char 'r' } := by decide +kernel
  have hc : Key.ofText? "Ctrl+c" = some (.ctrl 'c') := by decide +kernel
  obtain ⟨_, _, hoffers⟩ := hint_holds_iff [entries] s rfl rfl rfl
  refine ⟨rfl, rfl, rfl, by decide +kernel, hg, hrefresh, hhelp, ?_, ?_⟩
  · obtain ⟨key, hkey, _, hiff⟩ := hoffers g hg refresh hrefresh
    obtain rfl : key = { code := .char 'r' } := Option.some.inj (hkey.symm.trans hr)
    exact ⟨_, hr, by decide +kernel, fun hrun => absurd (hiff.mp hrun) (by decide +kernel)⟩
  · obtain ⟨key, hkey, _, hiff⟩ := hoffers g hg help hhelp
    obtain rfl : key = .ctrl 'c' := Option.some.inj (hkey.symm.trans hc)
    exact ⟨_, hc, rfl, fun hrun => absurd (hiff.mp hrun) (by decide)⟩

end StatusBar

namespace ConfirmOverlay

variable {keys : List String} {t : String}

theorem distinctKeys_concat (keys : List String) (t : String) :
    distinctKeys (keys ++ [t]) =
      if (distinctKeys keys).any (sameKey · t) then distinctKeys keys
      else distinctKeys keys ++ [t] := by
  simp [distinctKeys]

/-- Of keys that read as one, the first is kept. -/
theorem exists_sameKey_of_mem (h : t ∈ keys) : ∃ u ∈ distinctKeys keys, sameKey u t = true := by
  induction keys using List.reverseRecOn with
  | nil => cases h
  | append_singleton keys k ih =>
    rw [distinctKeys_concat]
    rcases List.mem_append.mp h with hold | hnew
    · obtain ⟨u, hu, hsame⟩ := ih hold
      split
      · exact ⟨u, hu, hsame⟩
      · exact ⟨u, List.mem_append_left _ hu, hsame⟩
    · obtain rfl := List.mem_singleton.mp hnew
      split
      next hany => exact List.any_eq_true.mp hany
      next => exact ⟨t, by simp, by simp [sameKey]⟩

theorem pairwise_distinctKeys (keys : List String) :
    (distinctKeys keys).Pairwise fun t u => sameKey t u = false := by
  induction keys using List.reverseRecOn with
  | nil => exact .nil
  | append_singleton keys k ih =>
    rw [distinctKeys_concat]
    split
    · exact ih
    next hnone =>
      refine List.pairwise_append.mpr ⟨ih, List.pairwise_singleton _ _, ?_⟩
      intro t ht u hu
      obtain rfl := List.mem_singleton.mp hu
      simpa using (by simpa using hnone : ∀ t ∈ distinctKeys keys, ¬ sameKey t u = true) t ht

/-- The key that the prompt names first confirms whenever some key does; otherwise the prompt names
one all the same. The keys that it names last call off, and between them they stand for every key
that does. -/
theorem prompt_key_confirms_iff (configs : List (List (String × String))) (innerWidth : Nat)
    (surface : ConfirmSurface) :
    let m := Keymap.overridden configs
    (lines m innerWidth surface).getLast? =
        some ("(" ++ confirmKey m ++ ") Delete  (" ++ "/".intercalate (cancelKeys m) ++
          ") Cancel") ∧
      (∃ key, Key.ofText? (confirmKey m) = some key ∧
        (m.actionFor .confirm key = some .confirmDelete ↔
          ∃ pressed, m.actionFor .confirm pressed = some .confirmDelete)) ∧
      ((∀ pressed, m.actionFor .confirm pressed ≠ some .confirmDelete) → confirmKey m = "y") ∧
      (∀ t ∈ cancelKeys m, ∃ key, Key.ofText? t = some key ∧
        m.actionFor .confirm key = some .cancelDelete) ∧
      (∀ key, ⟨.confirm, key, .cancelDelete⟩ ∈ m.bindings →
        ∃ t ∈ cancelKeys m, sameKey t key.text = true) ∧
      (cancelKeys m).Pairwise fun t u => sameKey t u = false := by
  intro m
  refine ⟨getLast?_lines m innerWidth surface, ?_, ?_, ?_, ?_, pairwise_distinctKeys _⟩
  · cases hkeys : m.keysFor .confirm .confirmDelete with
    | nil =>
      have hnone : ¬ ∃ pressed, m.actionFor .confirm pressed = some .confirmDelete :=
        fun h => Keymap.exists_actionFor_confirm_iff.mp h hkeys
      have hy : confirmKey m = "y" := by simp [confirmKey, hkeys]
      exact ⟨{ code := .char 'y' }, by rw [hy]; decide +kernel, fun h => ⟨_, h⟩,
        fun h => absurd h hnone⟩
    | cons t ts =>
      have ht : confirmKey m = t := by simp [confirmKey, hkeys]
      have hmem : t ∈ m.keysFor .confirm .confirmDelete := by simp [hkeys]
      obtain ⟨key, hread, hb⟩ := Keymap.exists_key_of_mem_keysFor hmem
      have hdoes : m.actionFor .confirm key = some .confirmDelete := Keymap.actionFor_of_mem hb
      exact ⟨key, ht ▸ hread, fun h => ⟨_, h⟩, fun _ => hdoes⟩
  · intro hnone
    have hkeys : m.keysFor .confirm .confirmDelete = [] := by
      by_contra hkeys
      obtain ⟨pressed, hpressed⟩ := Keymap.exists_actionFor_confirm_iff.mpr hkeys
      exact hnone pressed hpressed
    simp [confirmKey, hkeys]
  · intro t ht
    obtain ⟨key, hread, hb⟩ := Keymap.exists_key_of_mem_keysFor (mem_of_mem_distinctKeys ht)
    exact ⟨key, hread, Keymap.actionFor_of_mem hb⟩
  · intro key hb
    exact exists_sameKey_of_mem (Keymap.mem_keysFor.mpr ⟨key, hb, rfl⟩)

/-- The deletion is confirmed with a key that then calls it off: no key confirms, and the prompt
names one that does nothing. -/
theorem confirm_key_taken :
    let m := Keymap.overridden [[("confirm", "x")], [("cancel", "x")]]
    let y : Key := { code := .char 'y' }
    (lines m 48 ⟨"a", none⟩).getLast? = some "(y) Delete  (x) Cancel" ∧
      Key.ofText? "y" = some y ∧ m.actionFor .confirm y = none ∧
      (∀ pressed, m.actionFor .confirm pressed ≠ some .confirmDelete) ∧
      ∃ t ∈ cancelKeys m, sameKey t "x" = true := by
  intro m y
  have hread : Key.ofText? "y" = some y := by decide +kernel
  have hy : m.actionFor .confirm y = none := by decide +kernel
  have hconfirm : confirmKey m = "y" := by decide +kernel
  have hcancel : cancelKeys m = ["x"] := by decide +kernel
  obtain ⟨hlast, ⟨key, hkey, hiff⟩, _, _, hshown, _⟩ :=
    prompt_key_confirms_iff [[("confirm", "x")], [("cancel", "x")]] 48 ⟨"a", none⟩
  obtain rfl : key = y := Option.some.inj ((hconfirm ▸ hkey).symm.trans hread)
  refine ⟨?_, hread, hy, ?_, hshown { code := .char 'x' } (by decide +kernel)⟩
  · rw [hlast, hconfirm, hcancel]
    decide +kernel
  · intro pressed hpressed
    have hyes : m.actionFor .confirm y = some .confirmDelete := hiff.mpr ⟨pressed, hpressed⟩
    rw [hy] at hyes
    cases hyes

end ConfirmOverlay

end DeviceChannels
