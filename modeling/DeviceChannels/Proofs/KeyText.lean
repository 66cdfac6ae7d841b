import DeviceChannels.Proofs.KeymapCoherence
import DeviceChannels.Screen.ConfirmOverlay
import DeviceChannels.Screen.HelpOverlay
import DeviceChannels.Screen.StatusBar

/-! Texts of keys. A key that some text stands for is shown by a text that stands for it too; so no
two such keys are shown alike, and what is shown can be written into a configuration. -/

namespace DeviceChannels

namespace Text

variable {c d : Char} {cs : List Char}

theorem isBlank_of_trim (h : trim cs = [c]) : isBlank c = false := by
  have hdrop : (cs.dropWhile isBlank).reverse.dropWhile isBlank = [c] :=
    List.reverse_eq_iff.mp h
  have hhead := List.head?_dropWhile_not isBlank (cs.dropWhile isBlank).reverse
  rwa [hdrop] at hhead

theorem trim_singleton (h : isBlank c = false) : trim [c] = [c] := by
  simp [trim, h]

theorem trim_cons_concat (hc : isBlank c = false) (hd : isBlank d = false) (cs : List Char) :
    trim (c :: (cs ++ [d])) = c :: (cs ++ [d]) := by
  simp [trim, hc, hd]

theorem ne_space (h : isBlank c = false) : c ≠ ' ' := by
  rintro rfl
  exact absurd h (by decide)

end Text

theorem onlyChar?_eq_some_iff {cs : List Char} {c : Char} : onlyChar? cs = some c ↔ cs = [c] := by
  unfold onlyChar?
  split <;> simp_all

theorem functionNumber?_singleton (c : Char) : functionNumber? [c] = none := by
  simp [functionNumber?, smallNumber?]

namespace KeyCode

def withName : List KeyCode :=
  [.enter, .esc, .tab, .up, .down, .delete, .backspace, .home, .endKey, .char ' ']

theorem mem_withName {name : String} {code : KeyCode} (h : named? name = some code) :
    code ∈ withName := by
  simp only [named?, ite_eq_iff, Option.some.injEq, reduceCtorEq, and_false, or_false] at h
  simp only [withName, List.mem_cons, List.not_mem_nil, or_false]
  grind

theorem named?_singleton (c : Char) : named? (String.singleton c) = none := by
  simp [named?, String.ext_iff]

end KeyCode

namespace Key

theorem codeText_char (c : Char) :
    codeText (.char c) = if c = ' ' then "Space" else c.toString := rfl

/-- The keys that a text can stand for. -/
inductive Writable : Key → Prop
  | ctrl {c : Char} (h : Text.isBlank c = false) : Writable (.ctrl c)
  | char {c : Char} (h : Text.isBlank c = false) : Writable { code := .char c }
  | named {code : KeyCode} (h : code ∈ KeyCode.withName) : Writable { code }
  | function {n : Nat} (h : 1 ≤ n ∧ n ≤ 12) : Writable { code := .function n }

theorem writable_of_ofText? {text : String} {key : Key} (h : ofText? text = some key) :
    key.Writable := by
  unfold ofText? ofTrimmed? at h
  split at h
  · obtain ⟨c, hc, rfl⟩ := Option.map_eq_some_iff.mp h
    exact .ctrl (Text.isBlank_of_trim (onlyChar?_eq_some_iff.mp hc))
  split at h
  next code hcode =>
    obtain rfl := Option.some.inj h
    exact .named (KeyCode.mem_withName hcode)
  split at h
  · split at h
    next hn =>
      obtain rfl := Option.some.inj h
      exact .function hn
    next => cases h
  · obtain ⟨c, hc, rfl⟩ := Option.map_eq_some_iff.mp h
    exact .char (Text.isBlank_of_trim (onlyChar?_eq_some_iff.mp hc))

theorem Writable.ofText?_text {key : Key} (h : key.Writable) : ofText? key.text = some key := by
  cases h with
  | @ctrl c hc =>
    have htext : (Key.ctrl c).text.toList = 'C' :: (['t', 'r', 'l', '+'] ++ [c]) := by
      simp [text, Key.ctrl, codeText_char, Text.ne_space hc]
    rw [ofText?, htext, Text.trim_cons_concat (by decide) hc]
    simp [ofTrimmed?, ctrlPrefix, Text.trim_singleton hc, onlyChar?]
  | @char c hc =>
    have htext : (text { code := .char c }).toList = [c] := by
      simp [text, codeText_char, Text.ne_space hc]
    rw [ofText?, htext, Text.trim_singleton hc]
    simp [ofTrimmed?, ctrlPrefix, KeyCode.named?_singleton, functionNumber?_singleton, onlyChar?]
  | @named code hcode =>
    have hall : ∀ code ∈ KeyCode.withName, ofText? (text { code }) = some { code } := by
      decide +kernel
    exact hall code hcode
  | @function n hn =>
    have hall : ∀ n ∈ List.range' 1 12,
        ofText? (text { code := .function n }) = some { code := .function n } := by decide +kernel
    exact hall n (List.mem_range'_1.mpr (by omega))

theorem ofText?_text {text : String} {key : Key} (h : ofText? text = some key) :
    ofText? key.text = some key :=
  (writable_of_ofText? h).ofText?_text

end Key

namespace Keymap

theorem ofText?_text_of_mem (configs : List (List (String × String))) :
    ∀ b ∈ (overridden configs).bindings, Key.ofText? b.key.text = some b.key := by
  have hrun : (overridden configs).Coherent ∧
      ∀ b ∈ (overridden configs).bindings, Key.ofText? b.key.text = some b.key := by
    apply overridden_induction
      (P := fun m => m.Coherent ∧ ∀ b ∈ m.bindings, Key.ofText? b.key.text = some b.key)
    · rintro m action key text hk ⟨h, hm⟩
      refine ⟨h.rebind action key, fun b hb => ?_⟩
      rw [h.mem_rebind] at hb
      split at hb
      next hnew =>
        rw [hnew.2]
        exact Key.ofText?_text hk
      next => exact hm b hb.1
    · exact ⟨coherent_default, by decide +kernel⟩
  exact hrun.2

theorem mem_keysFor {m : Keymap} {context : Context} {action : Action} {t : String} :
    t ∈ m.keysFor context action ↔ ∃ key, ⟨context, key, action⟩ ∈ m.bindings ∧ key.text = t := by
  simp only [keysFor, List.mem_map, List.mem_filter, decide_eq_true_eq]
  constructor
  · rintro ⟨⟨_, key, _⟩, ⟨hb, rfl, rfl⟩, ht⟩
    exact ⟨key, hb, ht⟩
  · rintro ⟨key, hb, ht⟩
    exact ⟨_, ⟨hb, rfl, rfl⟩, ht⟩

theorem exists_of_mem_keysFor {m : Keymap} {context : Context} {action : Action} {t : String}
    (h : t ∈ m.keysFor context action) : ∃ b ∈ m.bindings, b.key.text = t := by
  obtain ⟨key, hb, ht⟩ := mem_keysFor.mp h
  exact ⟨_, hb, ht⟩

end Keymap

variable {m : Keymap} {t : String}

namespace HelpOverlay

def HelpRow.key? : HelpRow → Option String
  | .binding key _ => some key
  | _ => none

theorem mem_addSection {rs : List HelpRow} {s : Context × String} {description : String}
    (h : .binding t description ∈ addSection m rs s) :
    .binding t description ∈ rs ∨ ∃ b ∈ m.bindings, b.key.text = t := by
  by_cases hnone : (bindingRows m s.1).isEmpty
  · exact .inl (by simpa [addSection, hnone] using h)
  · have hnew : .binding t description ∈ rs ∨ .binding t description ∈ bindingRows m s.1 := by
      by_cases hrs : rs.isEmpty <;> simpa [addSection, hnone, hrs] using h
    refine hnew.imp_right fun hmem => ?_
    obtain ⟨b, hb, he⟩ := List.mem_map.mp hmem
    exact ⟨b, (List.mem_filter.mp hb).1, (HelpRow.binding.inj he).1⟩

theorem exists_of_mem_rows (h : t ∈ (rows m).filterMap HelpRow.key?) :
    ∃ b ∈ m.bindings, b.key.text = t := by
  have hrun (description : String) (ss : List (Context × String)) (rs : List HelpRow)
      (hrow : .binding t description ∈ ss.foldl (addSection m) rs) :
      .binding t description ∈ rs ∨ ∃ b ∈ m.bindings, b.key.text = t := by
    induction ss generalizing rs with
    | nil => exact .inl hrow
    | cons s ss ih => exact (ih _ hrow).elim mem_addSection .inr
  obtain ⟨row, hrow, hkey⟩ := List.mem_filterMap.mp h
  cases row with
  | binding key description =>
    obtain rfl := Option.some.inj hkey
    exact (hrun description sections [] hrow).resolve_left List.not_mem_nil
  | blank => cases hkey
  | heading title => cases hkey

end HelpOverlay

theorem StatusBar.exists_of_mem_hints {context : Context} {actions : List (Action × String)}
    (h : t ∈ (hints m context actions).map Hint.key) : ∃ b ∈ m.bindings, b.key.text = t := by
  obtain ⟨hint, hmem, rfl⟩ := List.mem_map.mp h
  obtain ⟨a, _, ha⟩ := List.mem_filterMap.mp hmem
  obtain ⟨key, hkey, rfl⟩ := Option.map_eq_some_iff.mp ha
  exact Keymap.exists_of_mem_keysFor (List.mem_of_head? hkey)

namespace ConfirmOverlay

theorem mem_of_mem_distinctKeys {keys : List String} (h : t ∈ distinctKeys keys) : t ∈ keys := by
  have hrun (keys kept : List String) (ht : t ∈ keys.foldl
      (fun kept key => if kept.any (sameKey · key) then kept else kept ++ [key]) kept) :
      t ∈ kept ∨ t ∈ keys := by
    induction keys generalizing kept with
    | nil => exact .inl ht
    | cons key keys ih =>
      rw [List.foldl_cons] at ht
      split at ht
      · exact (ih kept ht).imp_right (List.mem_cons_of_mem key)
      · have hi := ih (kept ++ [key]) ht
        rw [List.mem_append, List.mem_singleton, or_assoc] at hi
        exact hi.imp_right List.mem_cons.mpr
  exact (hrun keys [] h).resolve_left List.not_mem_nil

/-- Where no key confirms, the prompt names one all the same. -/
theorem exists_or_eq_confirmKey (m : Keymap) :
    (∃ b ∈ m.bindings, b.key.text = confirmKey m) ∨
      m.keysFor .confirm .confirmDelete = [] ∧ confirmKey m = "y" := by
  cases hk : m.keysFor .confirm .confirmDelete with
  | nil => exact .inr ⟨rfl, by simp [confirmKey, hk]⟩
  | cons key keys =>
    have hmem : confirmKey m ∈ m.keysFor .confirm .confirmDelete := by simp [confirmKey, hk]
    exact .inl (Keymap.exists_of_mem_keysFor hmem)

end ConfirmOverlay

namespace Keymap

/-- The keys as the help, the hints of the status bar and the prompt of a confirmation name them. -/
def shownKeys (m : Keymap) : List String :=
  (HelpOverlay.rows m).filterMap HelpOverlay.HelpRow.key? ++
    (StatusBar.hints m .confirm StatusBar.confirmActions).map StatusBar.Hint.key ++
    (StatusBar.hints m .channelList StatusBar.listActions).map StatusBar.Hint.key ++
    (StatusBar.hints m .global StatusBar.globalActions).map StatusBar.Hint.key ++
    ConfirmOverlay.confirmKey m :: ConfirmOverlay.cancelKeys m

theorem exists_of_mem_shownKeys (h : t ∈ m.shownKeys) :
    (∃ b ∈ m.bindings, b.key.text = t) ∨ m.keysFor .confirm .confirmDelete = [] ∧ t = "y" := by
  simp only [shownKeys, List.mem_append, List.mem_cons, or_assoc] at h
  rcases h with hhelp | hhint | hhint | hhint | rfl | hcancel
  · exact .inl (HelpOverlay.exists_of_mem_rows hhelp)
  · exact .inl (StatusBar.exists_of_mem_hints hhint)
  · exact .inl (StatusBar.exists_of_mem_hints hhint)
  · exact .inl (StatusBar.exists_of_mem_hints hhint)
  · exact ConfirmOverlay.exists_or_eq_confirmKey m
  · exact .inl (exists_of_mem_keysFor (ConfirmOverlay.mem_of_mem_distinctKeys hcancel))

/-- A key that a text stands for, and each key bound after any configurations, is the one that its
own text stands for. So bound keys that differ have different texts, and each text that is shown,
put into a configuration for an action, binds the action to the key that is shown so. -/
theorem shown_keys_read_back :
    (∀ text key, Key.ofText? text = some key → Key.ofText? key.text = some key) ∧
      ∀ configs : List (List (String × String)),
        let m := overridden configs
        (∀ b ∈ m.bindings, Key.ofText? b.key.text = some b.key) ∧
          (∀ b ∈ m.bindings, ∀ o ∈ m.bindings, b.key.text = o.key.text → b.key = o.key) ∧
          ∀ t ∈ m.shownKeys, ∃ key, key.text = t ∧ Key.ofText? t = some key ∧
            ((∃ b ∈ m.bindings, b.key = key) ∨
              m.keysFor .confirm .confirmDelete = [] ∧ t = "y") ∧
            ∀ name action, Action.ofName? name = some action →
              m.applyOverrides [(name, t)] = (m.rebind action key, []) := by
  refine ⟨fun text key h => Key.ofText?_text h, ?_⟩
  intro configs m
  have hread : ∀ b ∈ m.bindings, Key.ofText? b.key.text = some b.key :=
    ofText?_text_of_mem configs
  refine ⟨hread, ?_, ?_⟩
  · intro b hb o ho he
    exact Option.some.inj ((hread b hb).symm.trans ((congrArg Key.ofText? he).trans (hread o ho)))
  · intro t ht
    have hkey : ∃ key, key.text = t ∧ Key.ofText? t = some key ∧
        ((∃ b ∈ m.bindings, b.key = key) ∨
          m.keysFor .confirm .confirmDelete = [] ∧ t = "y") := by
      rcases exists_of_mem_shownKeys ht with ⟨b, hb, rfl⟩ | ⟨hnone, rfl⟩
      · exact ⟨b.key, rfl, hread b hb, .inl ⟨b, hb, rfl⟩⟩
      · exact ⟨{ code := .char 'y' }, by decide +kernel, by decide +kernel, .inr ⟨hnone, rfl⟩⟩
    obtain ⟨key, htext, hof, hbound⟩ := hkey
    refine ⟨key, htext, hof, hbound, fun name action ha => ?_⟩
    simp [applyOverrides, applyOverride, ha, hof]

/-- Texts with a sign, zeros, blanks and capitals are shown in their plain form. -/
theorem plain_texts_read_back :
    let m := overridden [[("refresh", "f+07"), ("quit", " Ctrl+ ß "), ("cancel", "RETURN")]]
    Key.ofText? "f+07" = some { code := .function 7 } ∧
      Key.ofText? (Key.text { code := .function 7 }) = some { code := .function 7 } ∧
      "F7" ∈ m.shownKeys ∧ "Ctrl+ß" ∈ m.shownKeys ∧ "Enter" ∈ m.shownKeys ∧
      Action.ofName? "help" = some .showHelp ∧
      ∃ key, key.text = "Ctrl+ß" ∧
        m.applyOverrides [("help", "Ctrl+ß")] = (m.rebind .showHelp key, []) := by
  intro m
  have hseven : Key.ofText? "f+07" = some { code := .function 7 } := by decide +kernel
  have hname : Action.ofName? "help" = some .showHelp := by decide +kernel
  have hctrl : "Ctrl+ß" ∈ m.shownKeys := by decide +kernel
  obtain ⟨hkey, hshown⟩ := shown_keys_read_back
  obtain ⟨_, _, hback⟩ :=
    hshown [[("refresh", "f+07"), ("quit", " Ctrl+ ß "), ("cancel", "RETURN")]]
  obtain ⟨key, htext, _, _, hbind⟩ := hback "Ctrl+ß" hctrl
  exact ⟨hseven, hkey "f+07" _ hseven, by decide +kernel, hctrl, by decide +kernel, hname, key,
    htext, hbind "help" .showHelp hname⟩

end Keymap

end DeviceChannels
