import RemoteUsb.Proofs.Filter.Grammar

/-! What is written as the text of a filter is read back. The text follows the grammar: what is written for
a field has neither blanks nor separators in it, whatever its value, so the parts of the text are the rules
and their parts are the fields. -/

namespace RemoteUsb

open Text (Numeral Splits Tight Trims digits capitalDigits joinWith)

namespace FilterRule

def plain : List Char := '-' :: 'x' :: (digits ++ capitalDigits)

theorem plain_apart : ∀ c ∈ plain, Text.isBlank c = false ∧ c ≠ ',' ∧ c ≠ '|' :=
  List.all_iff_forall_prop.mp (by decide)

/-! ## Fields -/

theorem writeField_plain (width : Nat) (value : Option Nat) : ∀ c ∈ writeField width value, c ∈ plain := by
  have hminusOne : ∀ c ∈ ['-', '1'], c ∈ plain := List.all_iff_forall_prop.mp (by decide)
  have hradix : ∀ c ∈ ['0', 'x'], c ∈ plain := List.all_iff_forall_prop.mp (by decide)
  intro c hc
  cases value with
  | none => exact hminusOne c hc
  | some n =>
    rcases List.mem_append.mp (show c ∈ ['0', 'x'] ++ Text.hexDigits width n from hc) with hc | hc
    · exact hradix c hc
    · exact List.mem_cons_of_mem _ (List.mem_cons_of_mem _ ((Text.numeral_hexDigits width n).mem c hc))

theorem writeField_text {field : FilterField} (width : Nat) {value : Option Nat}
    (h : ∀ n ∈ value, n ≤ field.max) : FieldText field (writeField width value) value := by
  have hinner : Trims (writeField width value) (writeField width value) :=
    (Text.tight_of_all fun c hc => (plain_apart c (writeField_plain width value c hc)).1).trims
  cases value with
  | none =>
    have hone : Numeral 10 ['1'] 1 := .digit ⟨by decide, .inl rfl⟩
    exact ⟨_, -1, hinner, .decimal ⟨.minus hone, by decide⟩, .any⟩
  | some n =>
    have hn := h n rfl
    have hmax : field.max ≤ 0xffff := by cases field <;> decide
    exact ⟨_, n, hinner, .hexadecimal (.inl rfl) ⟨.bare (Text.numeral_hexDigits width n), by omega⟩,
      .value hn⟩

/-! ## Rules -/

/-- What is written between the commas of a rule. -/
def writtenFields (rule : FilterRule) : Fields where
  number
    | .deviceClass => writeField 2 (rule.number? .deviceClass)
    | field => writeField 4 (rule.number? field)
  allow := [if rule.allow then '1' else '0']

theorem write_eq (rule : FilterRule) : rule.write = joinWith ',' rule.writtenFields.parts := rfl

theorem write_ne_nil (rule : FilterRule) : rule.write ≠ [] := by
  rw [write_eq, Fields.parts, Text.joinWith_cons (List.cons_ne_nil _ _)]
  exact List.append_ne_nil_of_right_ne_nil _ (List.cons_ne_nil _ _)

theorem writtenFields_plain (rule : FilterRule) :
    ∀ part ∈ rule.writtenFields.parts, ∀ c ∈ part, c ∈ plain := by
  have hallow : ∀ c ∈ [if rule.allow then '1' else '0'], c ∈ plain := by
    cases rule.allow <;> exact List.all_iff_forall_prop.mp (by decide)
  intro part hpart
  simp only [Fields.parts, writtenFields, List.mem_cons, List.not_mem_nil, or_false] at hpart
  rcases hpart with rfl | rfl | rfl | rfl | rfl
  · exact writeField_plain 2 _
  · exact writeField_plain 4 _
  · exact writeField_plain 4 _
  · exact writeField_plain 4 _
  · exact hallow

theorem number?_le_max (rule : FilterRule) (field : FilterField) :
    ∀ n ∈ rule.number? field, n ≤ field.max := by
  have hbyte (value : Option UInt8) : ∀ n ∈ value.map UInt8.toNat, n ≤ 0xff := by
    intro n h
    obtain ⟨v, _, rfl⟩ := Option.map_eq_some_iff.mp h
    exact Nat.le_of_lt_succ v.toNat_lt
  have hword (value : Option UInt16) : ∀ n ∈ value.map UInt16.toNat, n ≤ 0xffff := by
    intro n h
    obtain ⟨v, _, rfl⟩ := Option.map_eq_some_iff.mp h
    exact Nat.le_of_lt_succ v.toNat_lt
  cases field with
  | deviceClass => exact hbyte _
  | vendor | product | release => exact hword _

theorem write_text (rule : FilterRule) : RuleText rule.write rule := by
  have hplain := rule.writtenFields_plain
  refine ⟨rule.writtenFields, ⟨List.cons_ne_nil _ _, fun part hpart hcomma => ?_, rfl⟩, ?_, fun field => ?_⟩
  · exact (plain_apart ',' (hplain part hpart ',' hcomma)).2.1 rfl
  · refine (Text.tight_of_all fun c hc => (plain_apart c (hplain _ ?_ c hc)).1).trims
    exact List.mem_of_getElem? (i := 4) rfl
  · have hmax := rule.number?_le_max field
    cases field with
    | deviceClass => exact writeField_text 2 hmax
    | vendor | product | release => exact writeField_text 4 hmax

theorem write_apart (rule : FilterRule) : ∀ c ∈ rule.write, Text.isBlank c = false ∧ c ≠ '|' := by
  intro c hc
  rcases Text.mem_joinWith (rule.write_eq ▸ hc) with rfl | ⟨part, hpart, hc⟩
  · decide
  · have := plain_apart c (rule.writtenFields_plain part hpart c hc)
    exact ⟨this.1, this.2.2⟩

end FilterRule

namespace Filter

/-! ## Filters -/

theorem write_apart (f : Filter) : ∀ c ∈ f.write, Text.isBlank c = false := by
  intro c hc
  rcases Text.mem_joinWith hc with rfl | ⟨part, hpart, hc⟩
  · decide
  · obtain ⟨rule, _, rfl⟩ := List.mem_map.mp hpart
    exact (rule.write_apart c hc).1

theorem write_text (f : Filter) : FilterText f.write f := by
  have htrims := (Text.tight_of_all f.write_apart).trims
  cases f with
  | nil => exact .empty htrims
  | cons rule rules =>
    have hsplits : Splits '|' (write (rule :: rules)) ((rule :: rules).map FilterRule.write) := by
      refine ⟨List.cons_ne_nil _ _, fun part hpart hbar => ?_, rfl⟩
      obtain ⟨written, _, rfl⟩ := List.mem_map.mp hpart
      exact (written.write_apart '|' hbar).2 rfl
    refine .rules htrims ?_ hsplits ?_
    · intro hnil
      rw [hnil, Text.splits_iff] at hsplits
      exact rule.write_ne_nil (List.cons.inj hsplits).1.symm
    · exact List.forall₂_map_left_iff.mpr (List.forall₂_same.mpr fun written _ => written.write_text)

/-- The text of a filter is read as that filter. So whatever is read and written again is read as the same
filter, and written as the same text. -/
theorem parse_text :
    (∀ f : Filter, parse f.text = .ok f) ∧
      ∀ s, (parse s >>= fun f => parse f.text) = parse s ∧
        (parse s >>= fun f => (parse f.text).map text) = (parse s).map text := by
  have hread (f : Filter) : parse f.text = .ok f := by
    rw [parse, text, String.toList_ofList]
    exact read_ok.mpr f.write_text
  refine ⟨hread, fun s => ?_⟩
  cases parse s with
  | error e => exact ⟨rfl, rfl⟩
  | ok f => exact ⟨hread f, congrArg (Except.map text) (hread f)⟩

end Filter
end RemoteUsb
