import DocQuery.Command.Output
import DocQuery.Proofs.NumberTexts
import DocQuery.Proofs.ValueText

/-!
# DocQuery.Proofs.Envelopes

**Envelopes are JSON texts on one line.** What a command prints in the JSON format is put together
from texts: strings, numbers, arrays and objects of texts, and texts of values that are copied in.
`Shows text v` says that a text stands on one line and means the value `v`. Each way of putting
texts together keeps it, up to the envelopes of results and failures (`printsLine_jsonResult`,
`printsLine_failure`).
-/

namespace DocQuery

namespace Json

/-! ### Texts on one line -/

/-- A text on one line that means a value. -/
structure Shows (text : String) (v : Value) : Prop where
  means : Means text.toList v
  oneLine : '\n' ∉ text.toList

theorem escapeChar_oneLine (c : Char) : '\n' ∉ escapeChar c := by
  have hhex : '\n' ∉ Text.hexDigits 4 c.toNat := fun h =>
    absurd (mem_hexLetters_of_mem_hexDigits h) (by decide)
  unfold escapeChar
  split
  · next hc =>
    have hc' : c = '"' ∨ c = '\\' := by simpa using hc
    rcases hc' with rfl | rfl <;> decide
  split
  · decide
  next hline =>
  split
  · decide
  split
  · decide
  split
  · decide
  split
  · decide
  split
  · simp [hhex]
  · have hne : c ≠ '\n' := by simpa using hline
    simp [hne.symm]

theorem writeString_oneLine (cs : List Char) : '\n' ∉ writeString cs := by
  simp only [writeString, List.cons_append, List.mem_cons, List.mem_append, List.mem_flatMap,
    List.not_mem_nil, or_false, not_or, not_exists, not_and]
  exact ⟨by decide, fun c _ => escapeChar_oneLine c, by decide⟩

theorem numberText_oneLine {cs : List Char} (h : NumberText cs) : '\n' ∉ cs :=
  fun hmem => absurd (h.isNumberChar _ hmem) (by decide)

end Json

namespace Value

theorem separator_oneLine (i : Nat) : '\n' ∉ separator i := by
  unfold separator
  split <;> decide

theorem writeItems_oneLine {str : List Char → List Char} {items : List Value}
    (hitems : ∀ v ∈ items, ∀ text, v.writeWith str = .ok text → '\n' ∉ text) {i : Nat}
    {text : List Char} (h : writeItems str i items = .ok text) : '\n' ∉ text := by
  induction items generalizing i text with
  | nil =>
      cases h
      simp
  | cons v items ih =>
      rw [List.forall_mem_cons] at hitems
      simp only [writeItems, bind_eq_ok_iff, located_eq_ok_iff, Except.ok.injEq] at h
      obtain ⟨head, hhead, tail, htail, rfl⟩ := h
      simp [separator_oneLine, hitems.1 head hhead, ih hitems.2 htail]

theorem writeElements_oneLine {str : List Char → List Char} (hstr : ∀ cs, '\n' ∉ str cs)
    {d : Document} (hd : ∀ e ∈ d, ∀ text, e.2.writeWith str = .ok text → '\n' ∉ text) {i : Nat}
    {text : List Char} (h : writeElements str i d = .ok text) : '\n' ∉ text := by
  induction d generalizing i text with
  | nil =>
      cases h
      simp
  | cons e d ih =>
      rw [List.forall_mem_cons] at hd
      simp only [writeElements, bind_eq_ok_iff, located_eq_ok_iff, Except.ok.injEq] at h
      obtain ⟨head, hhead, tail, htail, rfl⟩ := h
      simp [separator_oneLine, hstr, hd.1 head hhead, ih hd.2 htail]

/-- Compact text stands on one line. -/
theorem writeWith_oneLine {str : List Char → List Char} (hstr : ∀ cs, '\n' ∉ str cs) {v : Value}
    {text : List Char} (h : v.writeWith str = .ok text) : '\n' ∉ text := by
  induction v using nestedInduction generalizing text with
  | null =>
      cases h
      decide
  | bool b =>
      cases b <;> cases h <;> decide
  | string s =>
      cases h
      exact hstr _
  | number number =>
      rw [writeWith] at h
      split at h
      · next hnumber =>
        cases h
        exact Json.numberText_oneLine ((Json.isNumberChars_iff _).1 hnumber)
      · cases h
  | array items ih =>
      simp only [writeWith, bind_eq_ok_iff, Except.ok.injEq] at h
      obtain ⟨body, hbody, rfl⟩ := h
      have hline := writeItems_oneLine (fun v hv _ => ih v hv) hbody
      simp [hline]
  | document d ih =>
      simp only [writeWith, bind_eq_ok_iff, Except.ok.injEq] at h
      obtain ⟨body, hbody, rfl⟩ := h
      have hline := writeElements_oneLine hstr (fun e he _ => ih e he) hbody
      simp +decide [hline]
  | absentDocument => cases h
  | absent => cases h

end Value

namespace Json

theorem shows_toJson {v : Value} {text : String} (h : v.toJson = .ok text) : Shows text v := by
  obtain ⟨cs, hwrite, rfl⟩ := Value.map_eq_ok_iff.1 h
  refine ⟨?_, ?_⟩
  · rw [String.toList_ofList]
    exact means_writeJson hwrite
  · rw [String.toList_ofList]
    exact Value.writeWith_oneLine writeString_oneLine hwrite

end Json

namespace Command

open Json (Shows Means MemberMeans ListMeans)

theorem shows_string (s : String) : Shows (jsonString s) (.string s) := by
  refine ⟨?_, ?_⟩
  · rw [jsonString, String.toList_ofList]
    exact .string (Json.stringMeans_writeString s)
  · rw [jsonString, String.toList_ofList]
    exact Json.writeString_oneLine _

theorem shows_int (n : Int) : Shows (toString n) (.number (toString n)) := by
  have hnumber : Json.NumberText (toString n).toList :=
    (Json.isNumberChars_iff _).1 (Decimal.isNumber_toString n)
  exact ⟨.number hnumber, Json.numberText_oneLine hnumber⟩

/-! #### Lists of texts -/

theorem listMeans_intercalate {α : Type} {Item : List Char → α → Prop} {ts : List (List Char)}
    {xs : List α} (h : List.Forall₂ Item ts xs) (hne : ts ≠ []) :
    ListMeans Item ([','].intercalate ts) xs := by
  induction h with
  | nil => exact absurd rfl hne
  | @cons t x ts xs hx hxs ih =>
      cases hxs with
      | nil =>
          have hlast := ListMeans.last Json.blankText_nil hx Json.blankText_nil
          rw [List.nil_append, List.append_nil] at hlast
          rwa [List.intercalate_singleton]
      | cons hy hys =>
          have hmore := ListMeans.more Json.blankText_nil hx Json.blankText_nil (ih (by simp))
          rw [List.intercalate_cons_cons]
          simpa using hmore

theorem intercalate_oneLine {ts : List (List Char)} (h : ∀ t ∈ ts, '\n' ∉ t) :
    '\n' ∉ [','].intercalate ts := by
  induction ts with
  | nil => simp
  | cons t ts ih =>
      rw [List.forall_mem_cons] at h
      cases ts with
      | nil =>
          rw [List.intercalate_singleton]
          exact h.1
      | cons t' ts =>
          rw [List.intercalate_cons_cons]
          simp [h.1, ih h.2]

/-- The items of a list, each by a text that shows it. -/
theorem forall₂_toList {items : List String} {vs : List Value} (h : List.Forall₂ Shows items vs) :
    List.Forall₂ Means (items.map String.toList) vs ∧ ∀ t ∈ items.map String.toList, '\n' ∉ t := by
  induction h with
  | nil => exact ⟨.nil, by simp⟩
  | cons hx _ ih =>
      rw [List.map_cons, List.forall_mem_cons]
      exact ⟨.cons hx.means ih.1, hx.oneLine, ih.2⟩

theorem shows_array {items : List String} {vs : List Value} (h : List.Forall₂ Shows items vs) :
    Shows (jsonArray items) (.array vs) := by
  obtain ⟨hmeans, hlines⟩ := forall₂_toList h
  have htext : (jsonArray items).toList =
      '[' :: ([','].intercalate (items.map String.toList) ++ [']']) := by
    rw [jsonArray, String.toList_append, String.toList_append, String.toList_intercalate]
    rfl
  refine ⟨?_, ?_⟩
  · rw [htext]
    cases h with
    | nil => exact .emptyArray Json.blankText_nil
    | cons _ _ => exact .array (listMeans_intercalate hmeans (by simp))
  · rw [htext]
    simp [intercalate_oneLine hlines]

/-- A member whose text shows its value. -/
def ShowsMember (m : String × String) (e : String × Value) : Prop := m.1 = e.1 ∧ Shows m.2 e.2

/-- The text of a member. -/
def memberText (m : String × String) : List Char := (jsonString m.1 ++ ":" ++ m.2).toList

theorem ShowsMember.memberText {m : String × String} {e : String × Value} (h : ShowsMember m e) :
    MemberMeans Means (memberText m) e ∧ '\n' ∉ Command.memberText m := by
  obtain ⟨key, text⟩ := m
  obtain ⟨k, v⟩ := e
  obtain ⟨rfl, htext⟩ := h
  have hchars : Command.memberText (key, text) =
      Json.writeString key.toList ++ ([] ++ ':' :: ([] ++ text.toList)) := by
    simp [Command.memberText, jsonString]
  rw [hchars]
  refine ⟨.mk (Json.stringMeans_writeString key) Json.blankText_nil Json.blankText_nil htext.means,
    ?_⟩
  simp [Json.writeString_oneLine, htext.oneLine]

theorem shows_object {members : List (String × String)} {d : Document}
    (h : List.Forall₂ ShowsMember members d) : Shows (jsonObject members) (.document d) := by
  have hmembers : List.Forall₂ (MemberMeans Means) (members.map memberText) d ∧
      ∀ t ∈ members.map memberText, '\n' ∉ t := by
    induction h with
    | nil => exact ⟨.nil, by simp⟩
    | cons hx _ ih =>
        rw [List.map_cons, List.forall_mem_cons]
        exact ⟨.cons hx.memberText.1 ih.1, hx.memberText.2, ih.2⟩
  have htext : (jsonObject members).toList =
      Char.ofNat 0x7b :: ([','].intercalate (members.map memberText) ++ [Char.ofNat 0x7d]) := by
    rw [jsonObject, String.toList_append, String.toList_append, String.toList_intercalate,
      List.map_map]
    rfl
  refine ⟨?_, ?_⟩
  · rw [htext]
    cases h with
    | nil => exact .emptyDocument Json.blankText_nil
    | cons _ _ => exact .document (listMeans_intercalate hmembers.1 (by simp))
  · rw [htext]
    simp +decide [intercalate_oneLine hmembers.2]

/-! ### The parts of an envelope -/

/-- Members that are shown, whatever their values are. -/
def AreShown (members : List (String × String)) : Prop := ∃ d, List.Forall₂ ShowsMember members d

theorem areShown_append {ms ms' : List (String × String)} (h : AreShown ms) (h' : AreShown ms') :
    AreShown (ms ++ ms') := by
  obtain ⟨d, hd⟩ := h
  obtain ⟨d', hd'⟩ := h'
  exact ⟨d ++ d', List.rel_append hd hd'⟩

theorem areShown_nil : AreShown [] := ⟨[], .nil⟩

theorem areShown_singleton {key text : String} {v : Value} (h : Shows text v) :
    AreShown [(key, text)] := ⟨[(key, v)], .cons ⟨rfl, h⟩ .nil⟩

theorem areShown_stringMember (key value : String) : AreShown (stringMember key value) := by
  unfold stringMember
  split
  · exact areShown_nil
  · exact areShown_singleton (shows_string value)

theorem areShown_intMember (key : String) (value : Int) : AreShown (intMember key value) := by
  unfold intMember
  split
  · exact areShown_nil
  · exact areShown_singleton (shows_int value)

/-- Details are shown, whatever is known. -/
theorem exists_shows_details (details : Details) : ∃ v, Shows details.toJson v := by
  have hsupported : AreShown (if details.supported.isEmpty then []
      else [("supported", jsonArray (details.supported.map jsonString))]) := by
    split
    · exact areShown_nil
    · have hitems : List.Forall₂ Shows (details.supported.map jsonString)
          (details.supported.map Value.string) := by
        rw [List.forall₂_map_left_iff, List.forall₂_map_right_iff]
        exact List.forall₂_same.2 fun s _ => shows_string s
      exact areShown_singleton (shows_array hitems)
  have hoffset : AreShown (details.offset.map fun n => ("offset", toString n)).toList := by
    cases details.offset with
    | none => exact areShown_nil
    | some n => exact areShown_singleton (shows_int n)
  have hall := areShown_append (areShown_append (areShown_append (areShown_append (areShown_append
    (areShown_append (areShown_stringMember "subject" details.subject) hsupported)
    (areShown_intMember "line" details.line)) (areShown_intMember "column" details.column)) hoffset)
    (areShown_stringMember "source_line" details.sourceLine))
    (areShown_stringMember "field" details.field)
  obtain ⟨d, hd⟩ := hall
  exact ⟨_, shows_object hd⟩

theorem exists_shows_remark (remark : Remark) : ∃ v, Shows remark.toJson v := by
  cases remark with
  | text s => exact ⟨_, shows_string s⟩
  | details d => exact exists_shows_details d

/-! ### Envelopes -/

/-- **One line, and on it a JSON text for a document.** -/
def PrintsLine (printed : String) (d : Document) : Prop :=
  ∃ line, printed = line ++ "\n" ∧ Shows line (.document d)

/-- The element with the identifier of a run, if it has one. -/
def traceElement (traceId : String) : Document :=
  if traceId = "" then [] else [("trace_id", .string traceId)]

theorem shows_traceElement (traceId : String) :
    List.Forall₂ ShowsMember (stringMember "trace_id" traceId) (traceElement traceId) := by
  unfold stringMember traceElement
  by_cases h : traceId = ""
  · simp [h]
  · simp only [h, beq_iff_eq, if_false]
    exact .cons ⟨rfl, shows_string traceId⟩ .nil

/-- An envelope is one line with its members between the status and the identifier of the run. -/
theorem printsLine_envelope (p : Printer) (status : String) {members : List (String × String)}
    {d : Document} (h : List.Forall₂ ShowsMember members d) :
    PrintsLine (p.envelope status members)
      (("status", .string status) :: (d ++ traceElement p.traceId)) := by
  refine ⟨_, rfl, shows_object ?_⟩
  exact .cons ⟨rfl, shows_string status⟩ (List.rel_append h (shows_traceElement p.traceId))

theorem printsLine_jsonResult (p : Printer) {data : String} {v : Value} (h : Shows data v) :
    PrintsLine (p.jsonResult data)
      (("status", .string "ok") :: ("data", v) :: traceElement p.traceId) :=
  printsLine_envelope p "ok" (.cons ⟨rfl, h⟩ .nil)

/-- A failure is one line with an error that has the code and the message. -/
theorem printsLine_failure {p : Printer} (hp : p.format = .json) (code message : String)
    (remark : Option Remark) :
    ∃ details, PrintsLine (p.failure code message remark)
      (("status", .string "error") ::
        ("error", .document (("code", .string code) :: ("message", .string message) :: details)) ::
          traceElement p.traceId) := by
  have hdetails : AreShown (remark.map fun r => ("details", r.toJson)).toList := by
    cases remark with
    | none => exact areShown_nil
    | some r =>
        obtain ⟨v, hv⟩ := exists_shows_remark r
        exact areShown_singleton hv
  obtain ⟨details, hshown⟩ := hdetails
  refine ⟨details, ?_⟩
  unfold Printer.failure
  rw [if_pos hp]
  refine printsLine_envelope p "error" (.cons ⟨rfl, shows_object ?_⟩ .nil)
  exact .cons ⟨rfl, shows_string code⟩ (.cons ⟨rfl, shows_string message⟩ hshown)

end Command

end DocQuery
