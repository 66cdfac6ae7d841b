import DeviceChannels.Catalog
import DeviceChannels.Proofs.JsonReading
import DeviceChannels.Proofs.Lists

/-! Catalogs written as JSON and read again. -/

namespace DeviceChannels.Catalog

/-- The fields of a channel in an object. -/
def fieldsOf (c : Channel) : List (String × Json) :=
  [("id", .string c.id), ("name", .string c.name), ("available", .bool c.available),
   ("on_device_resources", .natural c.onDeviceResources),
   ("total_resources", .natural c.totalResources), ("description", .string c.description),
   ("version", .natural c.version.toUInt64), ("on_device_file_size", .natural c.onDeviceFileSize)]

/-- What is read for a field that is left out. -/
def defaultFields : List (String × Json) :=
  [("available", .bool false), ("on_device_resources", .natural 0), ("total_resources", .natural 0),
   ("description", .string ""), ("version", .natural 0), ("on_device_file_size", .natural 0)]

/-- The fields of the channel in any order, some of those that hold their default left out. -/
def Describes (c : Channel) (fields : List (String × Json)) : Prop :=
  ∃ left, (fields ++ left).Perm (fieldsOf c) ∧ left ⊆ defaultFields

variable {c : Channel} {fields : List (String × Json)}

theorem fieldsOf_keys (c : Channel) : (fieldsOf c).map Prod.fst = fieldNames := rfl

theorem Describes.subset (h : Describes c fields) : fields ⊆ fieldsOf c := by
  obtain ⟨left, hperm, _⟩ := h
  exact fun f hf => hperm.subset (List.mem_append_left left hf)

theorem keys_nodup {left : List (String × Json)} (h : (fields ++ left).Perm (fieldsOf c)) :
    (fields.map Prod.fst ++ left.map Prod.fst).Nodup := by
  rw [← List.map_append, (h.map Prod.fst).nodup_iff, fieldsOf_keys]
  decide

theorem Describes.nodup (h : Describes c fields) : (fields.map Prod.fst).Nodup := by
  obtain ⟨left, hperm, _⟩ := h
  exact (List.nodup_append.mp (keys_nodup hperm)).1

theorem knownOnce_of_nodup (known : List String) (h : (fields.map Prod.fst).Nodup) :
    knownOnce known fields = true := by
  rw [knownOnce, List.all_eq_true]
  intro key _
  have hcount := List.nodup_iff_count_le_one.mp h key
  rw [List.count, List.countP_map, List.countP_eq_length_filter] at hcount
  exact decide_eq_true hcount

/-- What the object gives for a key: its field, or nothing if the channel has the default there. -/
theorem Describes.lookup {key : String} {v : Json} (h : Describes c fields)
    (hv : (key, v) ∈ fieldsOf c) :
    fields.lookup key = some v ∨ fields.lookup key = none ∧ (key, v) ∈ defaultFields := by
  have hkeys := h.nodup
  obtain ⟨left, hperm, hleft⟩ := h
  rcases List.mem_append.mp (hperm.symm.subset hv) with hf | hl
  · exact .inl ((lookup_eq_some_iff_mem hkeys).mpr hf)
  · have hne := (List.nodup_append.mp (keys_nodup hperm)).2.2
    refine .inr ⟨List.lookup_eq_none_iff.mpr fun f hf => ?_, hleft hl⟩
    have hkey := hne f.1 (List.mem_map_of_mem hf) key (List.mem_map.mpr ⟨_, hl, rfl⟩)
    simpa using hkey.symm

theorem Describes.required {key : String} {v : Json} (h : Describes c fields)
    (hv : (key, v) ∈ fieldsOf c) (hkey : key ∉ defaultFields.map Prod.fst) :
    fields.lookup key = some v := by
  rcases h.lookup hv with hf | ⟨_, hdef⟩
  · exact hf
  · exact absurd (List.mem_map.mpr ⟨_, hdef, rfl⟩) hkey

theorem Describes.optional {read : Json → Option α} {key : String} {v : Json} {x d : α}
    (h : Describes c fields) (hv : (key, v) ∈ fieldsOf c) (hread : read v = some x)
    (hd : (key, v) ∈ defaultFields → x = d) : optional read d (fields.lookup key) = some x := by
  rcases h.lookup hv with hf | ⟨hf, hdef⟩
  · rw [hf]
    exact hread
  · rw [hf, hd hdef]
    rfl

theorem describes_reverse (c : Channel) : Describes c (fieldsOf c).reverse := by
  refine ⟨[], ?_, List.nil_subset _⟩
  rw [List.append_nil]
  exact List.reverse_perm _

theorem asUInt32_natural (n : UInt32) : asUInt32 (.natural n.toUInt64) = some n := by
  simp [asUInt32, n.toNat_lt]

theorem channel_of_describes (h : Describes c fields) : channel (.object fields) = some c := by
  have hid : fields.lookup "id" = some (.string c.id) :=
    h.required (by simp [fieldsOf]) (by decide)
  have hname : fields.lookup "name" = some (.string c.name) :=
    h.required (by simp [fieldsOf]) (by decide)
  have havailable : Catalog.optional asBool false (fields.lookup "available") = some c.available :=
    h.optional (v := .bool c.available) (by simp [fieldsOf]) rfl (by simp [defaultFields])
  have honDevice : Catalog.optional asUInt64 0 (fields.lookup "on_device_resources") =
      some c.onDeviceResources :=
    h.optional (v := .natural c.onDeviceResources) (by simp [fieldsOf]) rfl
      (by simp [defaultFields])
  have htotal : Catalog.optional asUInt64 0 (fields.lookup "total_resources") =
      some c.totalResources :=
    h.optional (v := .natural c.totalResources) (by simp [fieldsOf]) rfl (by simp [defaultFields])
  have hdescription : Catalog.optional asString "" (fields.lookup "description") =
      some c.description :=
    h.optional (v := .string c.description) (by simp [fieldsOf]) rfl (by simp [defaultFields])
  have hversion : Catalog.optional asUInt32 0 (fields.lookup "version") = some c.version :=
    h.optional (v := .natural c.version.toUInt64) (by simp [fieldsOf])
      (asUInt32_natural c.version)
      (fun hd => UInt32.toUInt64_inj.mp (by simpa [defaultFields] using hd))
  have hsize : Catalog.optional asUInt64 0 (fields.lookup "on_device_file_size") =
      some c.onDeviceFileSize :=
    h.optional (v := .natural c.onDeviceFileSize) (by simp [fieldsOf]) rfl
      (by simp [defaultFields])
  simp [channel, knownOnce_of_nodup fieldNames h.nodup, channelOf, asString, hid, hname,
    havailable, honDevice, htotal, hdescription, hversion, hsize]

theorem mapM_channel {channels : List Channel} {objects : List (List (String × Json))}
    (h : List.Forall₂ Describes channels objects) :
    (objects.map Json.object).mapM channel = some channels := by
  induction h with
  | nil => rfl
  | cons hc _ ih => simp [channel_of_describes hc, ih]

/-- The two layouts of a catalog. -/
def layouts (objects : List (List (String × Json))) : List Json :=
  let array := Json.array (objects.map .object)
  [array, .object [("channels", array)]]

theorem mem_layouts {objects : List (List (String × Json))} {json : Json} :
    json ∈ layouts objects ↔ json = .array (objects.map .object) ∨
      json = .object [("channels", .array (objects.map .object))] := by
  simp [layouts]

theorem not_allBlank {objects : List (List (String × Json))} {json : Json} {text : String}
    (hjson : json ∈ layouts objects) (htext : Json.Document json text) :
    Text.allBlank text = false := by
  obtain ⟨g, t, g', _, ht, _, hchars⟩ := htext
  -- The opening bracket or brace is in the text; all blank, it would be an empty catalog.
  have hopen : ∃ c ∈ t, Text.isBlank c = false := by
    rcases mem_layouts.mp hjson with rfl | rfl <;> cases ht <;> exact ⟨_, List.mem_cons_self, rfl⟩
  obtain ⟨c, hc, hblank⟩ := hopen
  rw [Text.allBlank, List.all_eq_false, hchars]
  exact ⟨c, by simp [hc], by simp [hblank]⟩

theorem ofJson_layout {channels : List Channel} {objects : List (List (String × Json))}
    {json : Json} (h : List.Forall₂ Describes channels objects) (hjson : json ∈ layouts objects) :
    ofJson json = some channels := by
  have hlist : channelList (.array (objects.map .object)) = some channels := mapM_channel h
  rcases mem_layouts.mp hjson with rfl | rfl
  · exact hlist
  · simp [ofJson, knownOnce, hlist]

theorem Describes.scalar (h : Describes c fields) {f : String × Json} (hf : f ∈ fields) :
    (∃ s, f.2 = .string s) ∨ (∃ b, f.2 = .bool b) ∨ ∃ n, f.2 = .natural n := by
  have hmem := h.subset hf
  simp only [fieldsOf, List.mem_cons, List.not_mem_nil, or_false] at hmem
  rcases hmem with rfl | rfl | rfl | rfl | rfl | rfl | rfl | rfl <;> simp

theorem Describes.nested (h : Describes c fields) (depth : Nat) :
    Json.Nested (depth + 1) (.object fields) := by
  intro f hf
  rcases h.scalar hf with ⟨s, hs⟩ | ⟨b, hb⟩ | ⟨n, hn⟩
  · rw [hs]
    cases depth <;> exact trivial
  · rw [hb]
    cases depth <;> exact trivial
  · rw [hn]
    cases depth <;> exact trivial

theorem Describes.exists_spelled (h : Describes c fields) :
    ∃ t, Json.Spelled (.object fields) t := by
  apply Json.exists_object
  intro f hf
  rcases h.scalar hf with ⟨s, hs⟩ | ⟨b, hb⟩ | ⟨n, hn⟩
  · obtain ⟨t, ht⟩ := Json.exists_quoted s
    rw [hs]
    exact ⟨t, .string ht⟩
  · rw [hb]
    cases b
    · exact ⟨_, .no⟩
    · exact ⟨_, .yes⟩
  · rw [hn]
    exact ⟨_, .natural n⟩

/-- Every object of a described catalog has what every object of a described channel has. -/
theorem forall_objects {channels : List Channel} {objects : List (List (String × Json))}
    {p : Json → Prop} (h : List.Forall₂ Describes channels objects)
    (hp : ∀ {c fields}, Describes c fields → p (.object fields)) :
    ∀ x ∈ objects.map Json.object, p x := by
  induction h with
  | nil => simp
  | cons hc _ ih => simpa using ⟨hp hc, by simpa using ih⟩

section Layout

variable {channels : List Channel} {objects : List (List (String × Json))} {json : Json}
  (h : List.Forall₂ Describes channels objects) (hjson : json ∈ layouts objects)

include h hjson

theorem nested_layout : Json.Nested Json.maxDepth json := by
  rcases mem_layouts.mp hjson with rfl | rfl
  · exact forall_objects h fun hc => hc.nested 125
  · intro f hf
    simp only [List.mem_singleton] at hf
    subst hf
    exact forall_objects h fun hc => hc.nested 124

theorem exists_document : ∃ text, Json.Document json text := by
  have harray : ∃ t, Json.Spelled (.array (objects.map .object)) t :=
    Json.exists_array (forall_objects h fun hc => hc.exists_spelled)
  have hjsontext : ∃ t, Json.Spelled json t := by
    rcases mem_layouts.mp hjson with rfl | rfl
    · exact harray
    · exact Json.exists_object (by simpa using harray)
  obtain ⟨t, ht⟩ := hjsontext
  exact ⟨String.ofList t, [], t, [], Json.gap_nil, ht, Json.gap_nil, by simp⟩

end Layout

/-- Every catalog has a text in either layout, and whatever text it has, the same channels are
read from it again. -/
theorem read_document {channels : List Channel} {objects : List (List (String × Json))}
    (h : List.Forall₂ Describes channels objects) :
    ∀ json ∈ layouts objects, (∃ text, Json.Document json text) ∧
      ∀ text, Json.Document json text → read text = .ok channels := by
  intro json hjson
  refine ⟨exists_document h hjson, fun text htext => ?_⟩
  obtain ⟨rest, hvalue, hrest⟩ := Json.value_document htext (nested_layout h hjson)
  simp [read, not_allBlank hjson htext, hvalue, ofJson_layout h hjson, hrest]

/-- Three channels in either layout: one of which only the name and the id are written, in this order,
one with the greatest numbers and its fields from the last to the first, one with numbers that are
written although they are 0. The first id is a character beyond the basic plane. -/
theorem read_reordered :
    let clef : Channel := { id := "𝄞", name := "\"" }
    let greatest : Channel :=
      { id := "b", name := "B", available := true, onDeviceResources := 0xFFFFFFFFFFFFFFFF,
        totalResources := 0xFFFFFFFFFFFFFFFF, description := "last", version := 0xFFFFFFFF,
        onDeviceFileSize := 0xFFFFFFFFFFFFFFFF }
    let least : Channel := { id := "", name := "" }
    let channels := [clef, greatest, least]
    let objects : List (List (String × Json)) :=
      [[("name", .string "\""), ("id", .string "𝄞")], (fieldsOf greatest).reverse,
        (fieldsOf least).drop 6 ++ (fieldsOf least).take 2]
    let array := "[\x7b\"name\":\"\\\"\",\n \"id\":\"\\uD834\\udd1e\"\x7d," ++
      "\x7b\"on_device_file_size\":18446744073709551615,\"version\":4294967295," ++
      "\"description\":\"last\",\"total_resources\":18446744073709551615," ++
      "\"on_device_resources\":18446744073709551615,\"available\":true," ++
      "\"name\":\"B\",\"id\":\"b\"\x7d," ++
      "\x7b\"version\":0,\"on_device_file_size\":0,\"id\":\"\",\"name\":\"\"\x7d]"
    let wrapped := "\x7b\"channels\":" ++ array ++ "\x7d"
    List.Forall₂ Describes channels objects ∧
      Json.Document (.array (objects.map .object)) array ∧ read array = .ok channels ∧
      Json.Document (.object [("channels", .array (objects.map .object))]) wrapped ∧
      read wrapped = .ok channels := by
  intro clef greatest least channels objects array wrapped
  have hclef : Describes clef [("name", .string "\""), ("id", .string "𝄞")] :=
    ⟨defaultFields, List.Perm.swap _ _ _, List.Subset.refl _⟩
  have hleast : Describes least ((fieldsOf least).drop 6 ++ (fieldsOf least).take 2) := by
    refine ⟨((fieldsOf least).drop 2).take 4, ?_, by simp [fieldsOf, defaultFields, least]⟩
    exact (List.perm_append_comm : ((fieldsOf least).drop 6 ++ (fieldsOf least).take 6).Perm _)
  have hdescribes : List.Forall₂ Describes channels objects :=
    .cons hclef (.cons (describes_reverse greatest) (.cons hleast .nil))
  have hgap := Json.gap_nil
  have hline : Json.Gap ['\n', ' '] := by simp [Json.Gap]
  have hid : Json.FieldText Json.Spelled ("id", .string "𝄞") _ :=
    .plain (by decide) (.string (.mk (s := "𝄞") (.cons Json.written_clef .nil)))
  have hname : Json.FieldText Json.Spelled ("name", .string "\"") _ :=
    .plain (by decide) (.string (.mk (s := "\"") (.cons (.letter (e := '"') (by decide)) .nil)))
  have hfirst : Json.Spelled (.object [("name", .string "\""), ("id", .string "𝄞")]) _ :=
    .object hgap (.next hname hgap hline (.last hid hgap))
  have hgreatest : List.Forall₂ (Json.FieldText Json.Spelled) (fieldsOf greatest) _ :=
    .cons (.string (by decide) (by decide)) (.cons (.string (by decide) (by decide))
      (.cons (.plain (by decide) .yes) (.cons (.natural (by decide) _) (.cons (.natural (by decide) _)
      (.cons (.string (by decide) (by decide)) (.cons (.natural (by decide) _)
      (.cons (.natural (by decide) _) .nil)))))))
  have hsecond := Json.Spelled.object hgap (.intercalate (List.rel_reverse hgreatest))
  have hthird : Json.Spelled (.object ((fieldsOf least).drop 6 ++ (fieldsOf least).take 2)) _ :=
    .object hgap (.intercalate (.cons (.natural (by decide) _) (.cons (.natural (by decide) _)
      (.cons (.string (by decide) (by decide)) (.cons (.string (by decide) (by decide)) .nil)))))
  have hbrackets := Json.Spelled.array hgap
    (.intercalate (.cons hfirst (.cons hsecond (.cons hthird .nil))))
  have hkey : Json.isPlain "channels" = true := by decide
  have hbraces := Json.Spelled.object hgap (.last (.plain hkey hbrackets) hgap)
  have hbare : Json.Document (.array (objects.map .object)) array := by
    refine ⟨[], _, [], hgap, hbrackets, hgap, ?_⟩
    simp only [array, String.toList_append, String.reduceToList]
    decide +kernel
  have hwrapped : Json.Document (.object [("channels", .array (objects.map .object))]) wrapped := by
    refine ⟨[], _, [], hgap, hbraces, hgap, ?_⟩
    simp only [wrapped, array, String.toList_append, String.reduceToList]
    decide +kernel
  have hread := read_document hdescribes
  exact ⟨hdescribes, hbare, (hread _ (by simp [layouts])).2 array hbare, hwrapped,
    (hread _ (by simp [layouts])).2 wrapped hwrapped⟩

end DeviceChannels.Catalog
