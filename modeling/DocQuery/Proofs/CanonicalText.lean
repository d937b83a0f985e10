import DocQuery.Proofs.CanonicalForm
import DocQuery.Proofs.SourceBytes

/-!
# DocQuery.Proofs.CanonicalText

**Canonical text and canonical form.** Canonical text is a JSON text that denotes the canonical form of
the value, its strings and keys in normal form (`means_writeCanonical`), and it depends on nothing
else (`writeCanonical_eq_ok_iff`). So it loses the order of elements and the spelling of texts, and
nothing besides (`Value.alike_of_writeCanonical`).

Keys are sorted as they are given and respelled afterwards. Where the respelled keys are not in
order any more, two spellings of one value may have two canonical texts:
`canonical_text_up_to_normal_form` says exactly when they do not.
-/

namespace DocQuery

/-- A text as canonical text holds it: in normalisation form C, with long runs of marks broken. -/
def Text.normalText (s : String) : String := String.ofList (Text.Normal.normalForm s.toList)

open Text (normalText)

/-! ### Canonical strings -/

namespace Json

/-- One character inside a canonical JSON string: the two line separators stand for themselves. -/
def canonicalChar (c : Char) : List Char :=
  if c.toNat == 0x2028 || c.toNat == 0x2029 then [c] else escapeChar c

theorem restoreSeparators_plain {c : Char} (hc : c ≠ '\\') (rest : List Char) :
    restoreSeparators (c :: rest) = c :: restoreSeparators rest := by
  rw [restoreSeparators]
  · intro _ _ h
    exact absurd h hc
  · intro _ _ h
    exact absurd h hc

theorem restoreSeparators_plains {cs : List Char} (h : ∀ c ∈ cs, c ≠ '\\') (rest : List Char) :
    restoreSeparators (cs ++ rest) = cs ++ restoreSeparators rest := by
  induction cs with
  | nil => rfl
  | cons c cs ih =>
      rw [List.forall_mem_cons] at h
      rw [List.cons_append, restoreSeparators_plain h.1, ih h.2, List.cons_append]

/-- An escape that does not begin as those of the line separators do is left alone. -/
theorem restoreSeparators_escape {x : Char} {rest : List Char}
    (h : x = 'u' → rest.head? ≠ some '2') :
    restoreSeparators ('\\' :: x :: rest) = '\\' :: x :: restoreSeparators rest := by
  rw [restoreSeparators]
  rintro _ _ hx rfl
  exact h hx rfl

theorem head?_hexDigits_of_lt : ∀ n < 0x20, (Text.hexDigits 4 n).head? = some '0' := by decide

/-- **Undoing the escapes of separators is done character by character.** -/
theorem restoreSeparators_escapeChar (c : Char) (rest : List Char) :
    restoreSeparators (escapeChar c ++ rest) = canonicalChar c ++ restoreSeparators rest := by
  by_cases hsep : c.toNat = 0x2028 ∨ c.toNat = 0x2029
  · rcases hsep with hc | hc
    · rw [eq_ofNat_of_toNat hc]
      rfl
    · rw [eq_ofNat_of_toNat hc]
      rfl
  have hsame : canonicalChar c = escapeChar c := by
    rw [canonicalChar, if_neg]
    simpa using hsep
  have hletter : ∀ {x : Char}, x ≠ 'u' →
      restoreSeparators (['\\', x] ++ rest) = ['\\', x] ++ restoreSeparators rest :=
    fun hx => restoreSeparators_escape fun h => absurd h hx
  -- no other escape is touched: those by a letter are not by `u`, and the codes begin with a zero
  rw [hsame]
  unfold escapeChar
  split
  · next hc =>
    apply hletter
    rintro rfl
    revert hc
    decide
  next hc =>
  have hplain : c ≠ '"' ∧ c ≠ '\\' := by simpa using hc
  split
  · exact hletter (by decide)
  split
  · exact hletter (by decide)
  split
  · exact hletter (by decide)
  split
  · exact hletter (by decide)
  split
  · exact hletter (by decide)
  split
  · next hc =>
    have hlow : c.toNat < 0x20 := by
      simp only [Bool.or_eq_true, decide_eq_true_eq, beq_iff_eq] at hc
      omega
    have hhead : (Text.hexDigits 4 c.toNat ++ rest).head? = some '0' := by
      rw [List.head?_append, head?_hexDigits_of_lt c.toNat hlow]
      rfl
    rw [List.cons_append, List.cons_append, restoreSeparators_escape fun _ => by rw [hhead]; decide,
      restoreSeparators_plains fun y hy => (ne_of_mem_hexDigits hy).2]
    rfl
  · exact restoreSeparators_plain hplain.2 rest

theorem not_mayHoldSeparator_tail {c : Char} {rest : List Char}
    (h : mayHoldSeparator (c :: rest) = false) : mayHoldSeparator rest = false := by
  rw [mayHoldSeparator, Bool.or_eq_false_iff] at h
  exact h.2

/-- Where no escape of a separator begins there is none to undo. -/
theorem restoreSeparators_of_not_mayHold {text : List Char} (h : mayHoldSeparator text = false) :
    restoreSeparators text = text := by
  have hstart (d : Char) (rest : List Char)
      (h : mayHoldSeparator ('\\' :: 'u' :: '2' :: '0' :: '2' :: d :: rest) = false) : False := by
    rw [mayHoldSeparator, Bool.or_eq_false_iff] at h
    exact absurd h.1 (by simp [separatorStart])
  fun_induction restoreSeparators text with
  | case1 d rest hd ih => exact (hstart d rest h).elim
  | case2 d rest hd hd' ih => exact (hstart d rest h).elim
  | case3 d rest hd hd' ih => exact (hstart d rest h).elim
  | case4 c rest hc ih => rw [ih (not_mayHoldSeparator_tail (not_mayHoldSeparator_tail h))]
  | case5 c rest hc hpair ih => rw [ih (not_mayHoldSeparator_tail h)]
  | case6 => rfl

/-- Searching a text before its escapes are undone makes no difference. -/
theorem unescapeSeparators_eq (text : List Char) :
    unescapeSeparators text = restoreSeparators text := by
  rw [unescapeSeparators]
  split
  · rfl
  · next h => exact (restoreSeparators_of_not_mayHold (Bool.eq_false_iff.2 h)).symm

/-- A string that is written as canonical text, once it is in normal form. -/
def writeNormalString (cs : List Char) : List Char := '"' :: cs.flatMap canonicalChar ++ ['"']

/-- Undoing the separators in a written string. -/
theorem unescapeSeparators_writeString (cs : List Char) :
    unescapeSeparators (writeString cs) = writeNormalString cs := by
  have hbody : ∀ cs : List Char, restoreSeparators (cs.flatMap escapeChar ++ ['"']) =
      cs.flatMap canonicalChar ++ ['"'] := by
    intro cs
    induction cs with
    | nil => rfl
    | cons c cs ih =>
        rw [List.flatMap_cons, List.append_assoc, restoreSeparators_escapeChar, ih,
          List.flatMap_cons, List.append_assoc]
  rw [unescapeSeparators_eq, writeString, List.cons_append, restoreSeparators_plain (by decide),
    hbody]
  rfl

theorem writeCanonicalString_eq (cs : List Char) :
    writeCanonicalString cs = writeNormalString (Text.Normal.normalForm cs) :=
  unescapeSeparators_writeString _

theorem writeCanonicalString_toList (s : String) :
    writeCanonicalString s.toList = writeNormalString (normalText s).toList := by
  rw [writeCanonicalString_eq, normalText, String.toList_ofList]

theorem bodySpells_canonicalChar (c : Char) {rest : List Char} {us : List Nat}
    (h : BodySpells rest us) :
    BodySpells (canonicalChar c ++ rest) (Text.charUnits c ++ us) := by
  unfold canonicalChar
  split
  · next hc =>
    simp only [Bool.or_eq_true, beq_iff_eq] at hc
    refine .plain (by omega) ?_ ?_ h
    · rintro rfl
      revert hc
      decide
    · rintro rfl
      revert hc
      decide
  · exact bodySpells_escapeChar c h

theorem stringMeans_writeCanonicalString (s : String) :
    StringMeans (writeCanonicalString s.toList) (normalText s) := by
  rw [writeCanonicalString_toList]
  exact stringMeans_flatMap bodySpells_canonicalChar (normalText s)

end Json

/-! ### Canonical text and canonical form -/

namespace Value

section Respelling

variable {str str' : List Char → List Char} {f : String → String}

theorem writeItems_eq_ok_iff {items : List Value}
    (hitems : ∀ v ∈ items, ∀ text,
      v.writeWith str = .ok text ↔ (v.mapText f).writeWith str' = .ok text)
    (i : Nat) (text : List Char) :
    writeItems str i items = .ok text ↔ writeItems str' i (items.map (mapText f)) = .ok text := by
  induction items generalizing i text with
  | nil => exact Iff.rfl
  | cons v items ih =>
      rw [List.forall_mem_cons] at hitems
      simp only [List.map_cons, writeItems, bind_eq_ok_iff, located_eq_ok_iff, hitems.1,
        ih hitems.2]

theorem writeElements_eq_ok_iff (hstr : ∀ s : String, str s.toList = str' (f s).toList)
    {d : Document}
    (hd : ∀ e ∈ d, ∀ text,
      e.2.writeWith str = .ok text ↔ (e.2.mapText f).writeWith str' = .ok text)
    (i : Nat) (text : List Char) :
    writeElements str i d = .ok text ↔
      writeElements str' i (d.map fun e => (f e.1, e.2.mapText f)) = .ok text := by
  induction d generalizing i text with
  | nil => exact Iff.rfl
  | cons e d ih =>
      rw [List.forall_mem_cons] at hd
      simp only [List.map_cons, writeElements, bind_eq_ok_iff, located_eq_ok_iff, hd.1, ih hd.2,
        hstr]

/-- A writer of strings that respells them first writes what a plain one writes of respelled
values. -/
theorem writeWith_eq_ok_iff (hstr : ∀ s : String, str s.toList = str' (f s).toList) (v : Value)
    (text : List Char) :
    v.writeWith str = .ok text ↔ (v.mapText f).writeWith str' = .ok text := by
  induction v using nestedInduction generalizing text with
  | array items ih =>
      rw [mapText, mapTextItems_eq_map]
      simp only [writeWith, bind_eq_ok_iff, writeItems_eq_ok_iff ih]
  | document d ih =>
      rw [mapText, mapTextElements_eq_map]
      simp only [writeWith, bind_eq_ok_iff, writeElements_eq_ok_iff hstr ih]
  | string s => rw [mapText, writeWith, writeWith, hstr]
  | bool b => cases b <;> exact Iff.rfl
  | _ => exact Iff.rfl

end Respelling

theorem isRenderable_sortKeys_iff (read : String → String) (v : Value) :
    (v.sortKeys read).isRenderable = true ↔ v.isRenderable = true := by
  induction v using nestedInduction with
  | array items ih =>
      rw [sortKeys, sortKeysItems_eq_map, isRenderable, isRenderable, areRenderable_iff,
        areRenderable_iff, List.forall_mem_map]
      exact forall₂_congr ih
  | document d ih =>
      rw [sortKeys, sortKeysElements_eq_map, isRenderable, isRenderable, haveRenderable_iff,
        haveRenderable_iff]
      simp only [(List.mergeSort_perm _ (elementLe read)).mem_iff]
      rw [List.forall_mem_map]
      exact forall₂_congr ih
  | _ => exact Iff.rfl

/-- **Canonical text means the canonical form of the value.** -/
theorem means_writeCanonical {v : Value} {text : List Char} (h : v.writeCanonical = .ok text) :
    Json.Means text (v.canonicalForm normalText) :=
  means_writeWith Json.stringMeans_writeCanonicalString h

/-- Values with the same canonical text have the same canonical form. -/
theorem canonicalForm_eq_of_writeCanonical {v w : Value} {text : List Char}
    (hv : v.writeCanonical = .ok text) (hw : w.writeCanonical = .ok text) :
    v.canonicalForm normalText = w.canonicalForm normalText :=
  (means_writeCanonical hv).denotes.unique (means_writeCanonical hw).denotes

/-- **Canonical text is the text of the canonical form.** -/
theorem writeCanonical_eq_ok_iff {v : Value} {text : List Char} :
    v.writeCanonical = .ok text ↔
      (v.canonicalForm normalText).writeWith Json.writeNormalString = .ok text :=
  writeWith_eq_ok_iff Json.writeCanonicalString_toList v.canonicalize text

theorem toCanonicalJson_eq_ok_iff {v : Value} {text : String} :
    v.toCanonicalJson = .ok text ↔ v.writeCanonical = .ok text.toList := by
  rw [toCanonicalJson, map_eq_ok_iff]
  constructor
  · rintro ⟨cs, hcs, rfl⟩
    rwa [String.toList_ofList]
  · intro h
    exact ⟨text.toList, h, String.ofList_toList⟩

theorem exists_writeCanonical_iff (v : Value) :
    (∃ text, v.writeCanonical = .ok text) ↔ v.isRenderable = true := by
  rw [← isRenderable_sortKeys_iff id]
  exact exists_writeWith_iff v.canonicalize

theorem exists_toCanonicalJson_iff (v : Value) :
    (∃ text, v.toCanonicalJson = .ok text) ↔ v.isRenderable = true :=
  exists_map_iff.trans (exists_writeCanonical_iff v)

theorem exists_fingerprint_iff (v : Value) :
    (∃ print, v.fingerprint = .ok print) ↔ v.isRenderable = true :=
  exists_map_iff.trans (exists_writeCanonical_iff v)

theorem fingerprint_eq_ok_iff {v : Value} {print : String} :
    v.fingerprint = .ok print ↔ ∃ text, v.writeCanonical = .ok text ∧
      Digest.Sha256.hexDigest (fingerprintMessage text) = print :=
  map_eq_ok_iff

end Value

/-! ### Fingerprints -/

namespace Digest

theorem toList_inj {a b : ByteArray} : a.toList = b.toList ↔ a = b := by
  rw [Text.toList_eq_data, Text.toList_eq_data, Array.toList_inj, ByteArray.ext_iff]

namespace Sha256

end Sha256

end Digest

set_option maxRecDepth 100000 in
/-- An accented letter in its two spellings. -/
theorem normalText_acute : normalText "e\u0301" = "\u00e9" ∧ normalText "\u00e9" = "\u00e9" ∧
    normalText "f" = "f" := by
  obtain ⟨hdecomposed, hcomposed, hplain⟩ : Text.Normal.normalForm ['e', '\u0301'] = ['\u00e9'] ∧
      Text.Normal.normalForm ['\u00e9'] = ['\u00e9'] ∧ Text.Normal.normalForm ['f'] = ['f'] := by
    decide +kernel
  exact ⟨congrArg String.ofList hdecomposed, congrArg String.ofList hcomposed,
    congrArg String.ofList hplain⟩

/-- **Canonical text up to the spelling of texts.** Values that are equal, up to the order of
elements, once their texts are in normal form have canonical texts both or neither. The keys of a
canonical text ascend exactly when normal form keeps the order of the keys as they were given. Where
that holds of both values their canonical texts and fingerprints are the same; where it holds of one
of them only, their texts differ. -/
theorem canonical_text_up_to_normal_form {v w : Value}
    (h : Value.Alike id (v.mapText normalText) (w.mapText normalText))
    (hkeys : (v.mapText normalText).DistinctKeys) :
    ((∃ text, v.toCanonicalJson = .ok text) ↔ ∃ text, w.toCanonicalJson = .ok text) ∧
    (∀ text, v.toCanonicalJson = .ok text → ∃ x, Json.Denotes text.toList x ∧
      (x.Ascends ↔ v.KeepsOrder normalText)) ∧
    (v.KeepsOrder normalText → w.KeepsOrder normalText →
      (∀ text, v.toCanonicalJson = .ok text ↔ w.toCanonicalJson = .ok text) ∧
      ∀ print, v.fingerprint = .ok print ↔ w.fingerprint = .ok print) ∧
    (∀ text, v.toCanonicalJson = .ok text → w.toCanonicalJson = .ok text →
      (v.KeepsOrder normalText ↔ w.KeepsOrder normalText)) := by
  rw [← Value.alike_iff_mapText] at h
  -- alike values have the same respelled keys, so the condition on keys passes to the other value
  have hkeys' : (w.mapText normalText).DistinctKeys :=
    (h.everyKeys_iff fun hperm => hperm.nodup_iff).1 hkeys
  have hv := (Value.ascends_canonicalForm_iff v).trans (and_iff_right hkeys)
  have hw := (Value.ascends_canonicalForm_iff w).trans (and_iff_right hkeys')
  refine ⟨?_, ?_, ?_, ?_⟩
  · rw [Value.exists_toCanonicalJson_iff, Value.exists_toCanonicalJson_iff]
    exact h.isRenderable_iff
  · intro text htext
    rw [Value.toCanonicalJson_eq_ok_iff] at htext
    exact ⟨v.canonicalForm normalText, (Value.means_writeCanonical htext).denotes, hv⟩
  · intro hkeepsv hkeepsw
    have heq := Value.canonicalForm_eq_of_alike h (hv.2 hkeepsv) (hw.2 hkeepsw)
    simp only [Value.toCanonicalJson_eq_ok_iff, Value.fingerprint_eq_ok_iff,
      Value.writeCanonical_eq_ok_iff, heq, implies_true, and_self]
  · intro text htextv htextw
    rw [Value.toCanonicalJson_eq_ok_iff] at htextv htextw
    rw [← hv, ← hw, Value.canonicalForm_eq_of_writeCanonical htextv htextw]

theorem decomposed_key_misplaced :
    let v : Value := .document [("e\u0301", .number "1"), ("f", .number "2")]
    let w : Value := .document [("\u00e9", .number "1"), ("f", .number "2")]
    Value.Alike id (v.mapText normalText) (w.mapText normalText) ∧
      (v.mapText normalText).DistinctKeys ∧
      v.toCanonicalJson = .ok "\x7b\"\u00e9\":1,\"f\":2\x7d" ∧
      w.toCanonicalJson = .ok "\x7b\"f\":2,\"\u00e9\":1\x7d" ∧
      w.KeepsOrder normalText ∧ ¬ v.KeepsOrder normalText := by
  intro v w
  obtain ⟨hdecomposed, hcomposed, hplain⟩ := normalText_acute
  have hmapv : v.mapText normalText = w := by
    simp only [v, w, Value.mapText, Value.mapTextElements, hdecomposed, hplain]
  have hmapw : w.mapText normalText = w := by
    simp only [w, Value.mapText, Value.mapTextElements, hcomposed, hplain]
  have halike : Value.Alike id (v.mapText normalText) (w.mapText normalText) := by
    rw [hmapv, hmapw]
    exact .document (.cons (.mk rfl (.number "1")) (.cons (.mk rfl (.number "2")) .nil)) (.refl _)
  have hkeys : (v.mapText normalText).DistinctKeys := by
    rw [hmapv]
    simp [w, Value.DistinctKeys, Value.EveryKeys, Value.EveryKeysElements]
  have hsorted : v.canonicalize = v ∧
      w.canonicalize = .document [("f", .number "2"), ("\u00e9", .number "1")] := ⟨by cbv, by cbv⟩
  have hv : v.toCanonicalJson = .ok "\x7b\"\u00e9\":1,\"f\":2\x7d" := by
    rw [Value.toCanonicalJson_eq_ok_iff, Value.writeCanonical_eq_ok_iff, Value.canonicalForm,
      hsorted.1, hmapv]
    cbv
  have hw : w.toCanonicalJson = .ok "\x7b\"f\":2,\"\u00e9\":1\x7d" := by
    rw [Value.toCanonicalJson_eq_ok_iff, Value.writeCanonical_eq_ok_iff, Value.canonicalForm,
      hsorted.2]
    simp only [Value.mapText, Value.mapTextElements, hcomposed, hplain]
    cbv
  have hkeeps : w.KeepsOrder normalText := by
    simp [w, Value.KeepsOrder, Value.EveryKeys, Value.EveryKeysElements, Text.KeepsOrder, hcomposed,
      hplain]
  refine ⟨halike, hkeys, hv, hw, hkeeps, ?_⟩
  -- were the order kept, both values would have the same text
  intro hkeepsv
  have hsame := ((canonical_text_up_to_normal_form halike hkeys).2.2.1 hkeepsv hkeeps).1
  have htext := (hsame _).1 hv
  rw [hw] at htext
  exact absurd (Except.ok.inj htext) (by decide)

end DocQuery
