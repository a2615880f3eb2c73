import Mathlib.Data.List.Forall2
import RemoteUsb.Filter.Text
import RemoteUsb.Proofs.Fallible
import RemoteUsb.Proofs.Text.Blank
import RemoteUsb.Proofs.Text.Digits
import RemoteUsb.Proofs.Text.Parts

/-! # The grammar of filters

What the text of a filter may look like, said without a reader: rules between bars, five fields between
commas, blanks around any of them, and in a field a number that the field can have. Where a text is none,
the fault to name is the first one of the first rule that is wrong; in a rule the fields are counted first,
then the last one is looked at, and then the others from the left. `parse_reads_grammar` says that filters
are read by this grammar, and that this is the error. -/

namespace RemoteUsb

open Text (Trims Splits Word trims_iff splits_iff)

def FilterField.place : FilterField → Nat
  | .deviceClass => 0
  | .vendor => 1
  | .product => 2
  | .release => 3

namespace FilterRule

/-! ## Fields -/

def number? (rule : FilterRule) : FilterField → Option Nat
  | .deviceClass => rule.deviceClass.map UInt8.toNat
  | .vendor => rule.vendor.map UInt16.toNat
  | .product => rule.product.map UInt16.toNat
  | .release => rule.release.map UInt16.toNat

/-- A text stands for a number: in decimal, or in hexadecimal after a prefix. -/
inductive Denotes : List Char → Int → Prop where
  | decimal {cs : List Char} {v : Int} (_ : Word 10 cs v) : Denotes cs v
  | hexadecimal {x : Char} {cs : List Char} {v : Int} (_ : x = 'x' ∨ x = 'X') (_ : Word 16 cs v) :
    Denotes ('0' :: x :: cs) v

/-- What a number says of a field. -/
inductive Means (field : FilterField) : Int → Option Nat → Prop where
  | any : Means field (-1) none
  | value {n : Nat} (_ : n ≤ field.max) : Means field n (some n)

/-- A field of a text, with its value. -/
def FieldText (field : FilterField) (cs : List Char) (value : Option Nat) : Prop :=
  ∃ inner v, Trims cs inner ∧ Denotes inner v ∧ Means field v value

/-- What is wrong with a field of the rule with an index. -/
inductive FieldFault (index : Nat) (field : FilterField) (cs : List Char) : FilterError → Prop where
  | number {inner : List Char} (_ : Trims cs inner) (_ : ∀ v, ¬Denotes inner v) :
    FieldFault index field cs (.invalidNumber index field (String.ofList inner))
  | range {inner : List Char} {v : Int} (_ : Trims cs inner) (_ : Denotes inner v)
      (_ : ∀ value, ¬Means field v value) :
    FieldFault index field cs (.outOfRange index field v)

variable {index : Nat} {field : FilterField} {cs : List Char} {e : FilterError}

theorem readNumber?_eq_some {v : Int} : readNumber? cs = some v ↔ Denotes cs v := by
  -- a decimal numeral does not begin with a prefix
  have hradix (x : Char) (hx : x = 'x' ∨ x = 'X') (cs : List Char) :
      Text.readInt64? 10 ('0' :: x :: cs) = none := by
    rcases hx with rfl | rfl <;> rfl
  constructor
  · intro h
    unfold readNumber? at h
    split at h
    · exact .hexadecimal (.inl rfl) ((Text.readInt64?_eq_some (by decide)).mp h)
    · exact .hexadecimal (.inr rfl) ((Text.readInt64?_eq_some (by decide)).mp h)
    · exact .decimal ((Text.readInt64?_eq_some (by decide)).mp h)
  · intro h
    cases h with
    | decimal h =>
      have hread := (Text.readInt64?_eq_some (by decide)).mpr h
      unfold readNumber?
      split
      · rw [hradix _ (.inl rfl)] at hread
        cases hread
      · rw [hradix _ (.inr rfl)] at hread
        cases hread
      · exact hread
    | hexadecimal hx h =>
      rcases hx with rfl | rfl <;> exact (Text.readInt64?_eq_some (by decide)).mpr h

/-- What a number says of a field is what the reader makes of it. -/
theorem means_iff {v : Int} {value : Option Nat} :
    Means field v value ↔
      v = -1 ∧ value = none ∨ v ≠ -1 ∧ (0 ≤ v ∧ v ≤ field.max) ∧ value = some v.toNat := by
  constructor
  · intro h
    cases h with
    | any => exact .inl ⟨rfl, rfl⟩
    | value hn => exact .inr ⟨by omega, ⟨by omega, by omega⟩, rfl⟩
  · rintro (⟨rfl, rfl⟩ | ⟨_, ⟨hv, hmax⟩, rfl⟩)
    · exact .any
    · have hmeans : Means field v.toNat (some v.toNat) := .value (by omega)
      rwa [Int.toNat_of_nonneg hv] at hmeans

theorem readField_ok {value : Option Nat} :
    readField index field cs = .ok value ↔ FieldText field cs value := by
  constructor
  · intro h
    unfold readField at h
    dsimp only at h
    split at h
    · cases h
    · rename_i v hv
      refine ⟨_, v, Text.strip_trims cs, readNumber?_eq_some.mp hv, means_iff.mpr ?_⟩
      split at h
      · cases h
        exact .inl ⟨‹_›, rfl⟩
      · split at h <;> cases h
        exact .inr ⟨‹_›, ‹_›, rfl⟩
  · rintro ⟨inner, v, htrims, hv, hmeans⟩
    unfold readField
    dsimp only
    rw [trims_iff.mp htrims, readNumber?_eq_some.mpr hv]
    rcases means_iff.mp hmeans with ⟨rfl, rfl⟩ | ⟨hne, hrange, rfl⟩
    · rfl
    · dsimp only
      rw [if_neg hne, if_pos hrange]

theorem readField_error : readField index field cs = .error e ↔ FieldFault index field cs e := by
  constructor
  · intro h
    unfold readField at h
    dsimp only at h
    split at h
    · cases h
      rename_i hnone
      refine .number (Text.strip_trims cs) fun v hv => ?_
      cases hnone.symm.trans (readNumber?_eq_some.mpr hv)
    · rename_i v hv
      split at h
      · cases h
      · split at h <;> cases h
        refine .range (Text.strip_trims cs) (readNumber?_eq_some.mp hv) fun value hmeans => ?_
        rcases means_iff.mp hmeans with ⟨hany, _⟩ | ⟨_, hrange, _⟩ <;> contradiction
  · intro h
    unfold readField
    dsimp only
    cases h with
    | number htrims hnone =>
      have hread : ∀ v, readNumber? (Text.strip cs) ≠ some v :=
        fun v hv => hnone v (readNumber?_eq_some.mp (trims_iff.mp htrims ▸ hv))
      rw [Option.eq_none_iff_forall_ne_some.mpr hread, trims_iff.mp htrims]
    | @range inner v htrims hv hmeans =>
      rw [trims_iff.mp htrims, readNumber?_eq_some.mpr hv]
      dsimp only
      rw [if_neg, if_neg]
      · exact fun hrange => hmeans _ (means_iff.mpr (.inr ⟨by omega, hrange, rfl⟩))
      · rintro rfl
        exact hmeans _ .any

/-! ## Rules -/

/-- The last field of a text, with what it says. -/
def AllowText (cs : List Char) (allow : Bool) : Prop := Trims cs [if allow then '1' else '0']

/-- The five fields of a rule. -/
structure Fields where
  number : FilterField → List Char
  allow : List Char

def Fields.parts (f : Fields) : List (List Char) :=
  [f.number .deviceClass, f.number .vendor, f.number .product, f.number .release, f.allow]

def RuleText (cs : List Char) (rule : FilterRule) : Prop :=
  ∃ fields : Fields, Splits ',' cs fields.parts ∧ AllowText fields.allow rule.allow ∧
    ∀ field, FieldText field (fields.number field) (rule.number? field)

/-- What is wrong with the rule with an index. -/
inductive RuleFault (index : Nat) (cs : List Char) : FilterError → Prop where
  | count {parts : List (List Char)} (_ : Splits ',' cs parts) (_ : parts.length ≠ 5) :
    RuleFault index cs (.fieldCount index parts.length)
  | allow {fields : Fields} {inner : List Char} (_ : Splits ',' cs fields.parts)
      (_ : Trims fields.allow inner) (_ : inner ≠ ['0'] ∧ inner ≠ ['1']) :
    RuleFault index cs (.invalidAllow index (String.ofList inner))
  | field {fields : Fields} {allow : Bool} {field : FilterField} {e : FilterError}
      (_ : Splits ',' cs fields.parts) (_ : AllowText fields.allow allow)
      (_ : ∀ earlier : FilterField, earlier.place < field.place →
        ∃ value, FieldText earlier (fields.number earlier) value)
      (_ : FieldFault index field (fields.number field) e) :
    RuleFault index cs e

theorem readAllow_ok {allow : Bool} : readAllow index cs = .ok allow ↔ AllowText cs allow := by
  rw [AllowText, trims_iff]
  unfold readAllow
  constructor
  · intro h
    split at h <;> cases h <;> assumption
  · intro h
    rw [h]
    cases allow <;> rfl

theorem readAllow_error : readAllow index cs = .error e ↔
    ∃ inner, Trims cs inner ∧ (inner ≠ ['0'] ∧ inner ≠ ['1']) ∧
      e = .invalidAllow index (String.ofList inner) := by
  unfold readAllow
  constructor
  · intro h
    split at h <;> cases h
    exact ⟨_, Text.strip_trims cs, ⟨‹_›, ‹_›⟩, rfl⟩
  · rintro ⟨inner, htrims, ⟨hzero, hone⟩, rfl⟩
    rw [trims_iff.mp htrims]
    split
    · contradiction
    · contradiction
    · rfl

/-- The parts of a text are the fields of a rule, or there are not five of them. -/
theorem fields_or_count (parts : List (List Char)) :
    (∃ fields : Fields, parts = fields.parts) ∨ parts.length ≠ 5 := by
  match parts with
  | [c, v, p, r, a] =>
    refine .inl ⟨⟨fun field => match field with
      | .deviceClass => c
      | .vendor => v
      | .product => p
      | .release => r, a⟩, rfl⟩
  | [] | [_] | [_, _] | [_, _, _] | [_, _, _, _] => exact .inr (by simp)
  | _ :: _ :: _ :: _ :: _ :: _ :: _ => exact .inr (by simp)

theorem FieldText.le_max {value : Option Nat} (h : FieldText field cs value) :
    ∀ n ∈ value, n ≤ field.max := by
  obtain ⟨_, _, _, _, hmeans⟩ := h
  cases hmeans with
  | any => exact nofun
  | value hn =>
    intro n h
    exact Option.some.inj h ▸ hn

theorem map_toUInt8 {value : Option Nat} (h : ∀ n ∈ value, n ≤ 0xff) :
    (value.map Nat.toUInt8).map UInt8.toNat = value := by
  cases value with
  | none => rfl
  | some n => simp [Nat.mod_eq_of_lt (Nat.lt_succ_of_le (h n rfl))]

theorem map_toUInt16 {value : Option Nat} (h : ∀ n ∈ value, n ≤ 0xffff) :
    (value.map Nat.toUInt16).map UInt16.toNat = value := by
  cases value with
  | none => rfl
  | some n => simp [Nat.mod_eq_of_lt (Nat.lt_succ_of_le (h n rfl))]

theorem read_fields {fields : Fields} (h : Splits ',' cs fields.parts) :
    read index cs = (do
      let allow ← readAllow index fields.allow
      let deviceClass ← readField index .deviceClass (fields.number .deviceClass)
      let vendor ← readField index .vendor (fields.number .vendor)
      let product ← readField index .product (fields.number .product)
      let release ← readField index .release (fields.number .release)
      return { deviceClass := deviceClass.map Nat.toUInt8, vendor := vendor.map Nat.toUInt16,
               product := product.map Nat.toUInt16, release := release.map Nat.toUInt16, allow }) := by
  unfold read
  rw [splits_iff.mp h]
  rfl

theorem read_count {parts : List (List Char)} (h : Splits ',' cs parts) (hcount : parts.length ≠ 5) :
    read index cs = .error (.fieldCount index parts.length) := by
  unfold read
  rw [splits_iff.mp h]
  split
  · exact absurd rfl hcount
  · rfl

theorem read_ok {rule : FilterRule} : read index cs = .ok rule ↔ RuleText cs rule := by
  constructor
  · intro h
    have hsplits := Text.splitAt_splits ',' cs
    rcases fields_or_count (Text.splitAt ',' cs) with ⟨fields, hfields⟩ | hcount
    · rw [hfields] at hsplits
      rw [read_fields hsplits] at h
      simp only [bind_eq_ok, readAllow_ok, readField_ok] at h
      obtain ⟨allow, hallow, c, hc, v, hv, p, hp, r, hr, h⟩ := h
      cases h
      refine ⟨fields, hsplits, hallow, fun field => ?_⟩
      cases field with
      | deviceClass =>
        rw [number?, map_toUInt8 hc.le_max]
        exact hc
      | vendor =>
        rw [number?, map_toUInt16 hv.le_max]
        exact hv
      | product =>
        rw [number?, map_toUInt16 hp.le_max]
        exact hp
      | release =>
        rw [number?, map_toUInt16 hr.le_max]
        exact hr
    · rw [read_count hsplits hcount] at h
      cases h
  · rintro ⟨fields, hsplits, hallow, hnumbers⟩
    rw [read_fields hsplits]
    simp only [bind_eq_ok, readAllow_ok, readField_ok]
    refine ⟨_, hallow, _, hnumbers _, _, hnumbers _, _, hnumbers _, _, hnumbers _, ?_⟩
    simp [number?, Option.map_map, Function.comp_def, pure, Except.pure]

theorem read_error : read index cs = .error e ↔ RuleFault index cs e := by
  constructor
  · intro h
    have hsplits := Text.splitAt_splits ',' cs
    rcases fields_or_count (Text.splitAt ',' cs) with ⟨fields, hfields⟩ | hcount
    · rw [hfields] at hsplits
      rw [read_fields hsplits] at h
      simp only [bind_eq_error, readAllow_ok, readAllow_error, readField_ok, readField_error] at h
      rcases h with ⟨_, htrims, hinner, rfl⟩ | ⟨allow, hallow, h⟩
      · exact .allow hsplits htrims hinner
      rcases h with hfault | ⟨c, hc, h⟩
      · refine .field hsplits hallow (fun earlier he => ?_) hfault
        cases earlier <;> exact absurd he (by decide)
      rcases h with hfault | ⟨v, hv, h⟩
      · refine .field hsplits hallow (fun earlier he => ?_) hfault
        cases earlier with
        | deviceClass => exact ⟨c, hc⟩
        | vendor | product | release => exact absurd he (by decide)
      rcases h with hfault | ⟨p, hp, h⟩
      · refine .field hsplits hallow (fun earlier he => ?_) hfault
        cases earlier with
        | deviceClass => exact ⟨c, hc⟩
        | vendor => exact ⟨v, hv⟩
        | product | release => exact absurd he (by decide)
      rcases h with hfault | ⟨r, _, h⟩
      · refine .field hsplits hallow (fun earlier he => ?_) hfault
        cases earlier with
        | deviceClass => exact ⟨c, hc⟩
        | vendor => exact ⟨v, hv⟩
        | product => exact ⟨p, hp⟩
        | release => exact absurd he (by decide)
      cases h
    · rw [read_count hsplits hcount] at h
      cases h
      exact .count hsplits hcount
  · intro h
    cases h with
    | count hsplits hcount => exact read_count hsplits hcount
    | allow hsplits htrims hinner =>
      rw [read_fields hsplits, bind_eq_error]
      exact .inl (readAllow_error.mpr ⟨_, htrims, hinner, rfl⟩)
    | @field _ allow field _ hsplits hallow hearlier hfault =>
      rw [read_fields hsplits]
      simp only [bind_eq_error, readAllow_ok, readAllow_error, readField_ok, readField_error]
      refine .inr ⟨allow, hallow, ?_⟩
      cases field with
      | deviceClass => exact .inl hfault
      | vendor =>
        obtain ⟨c, hc⟩ := hearlier .deviceClass (by decide)
        exact .inr ⟨c, hc, .inl hfault⟩
      | product =>
        obtain ⟨c, hc⟩ := hearlier .deviceClass (by decide)
        obtain ⟨v, hv⟩ := hearlier .vendor (by decide)
        exact .inr ⟨c, hc, .inr ⟨v, hv, .inl hfault⟩⟩
      | release =>
        obtain ⟨c, hc⟩ := hearlier .deviceClass (by decide)
        obtain ⟨v, hv⟩ := hearlier .vendor (by decide)
        obtain ⟨p, hp⟩ := hearlier .product (by decide)
        exact .inr ⟨c, hc, .inr ⟨v, hv, .inr ⟨p, hp, .inl hfault⟩⟩⟩

end FilterRule

namespace Filter

open FilterRule (RuleText RuleFault)

/-! ## Filters -/

/-- The text of a filter. Nothing but blanks is the filter without rules. -/
inductive FilterText (cs : List Char) : Filter → Prop where
  | empty (_ : Trims cs []) : FilterText cs []
  | rules {inner : List Char} {parts : List (List Char)} {f : Filter} (_ : Trims cs inner)
      (_ : inner ≠ []) (_ : Splits '|' inner parts) (_ : List.Forall₂ RuleText parts f) :
    FilterText cs f

/-- What is wrong with the parts of a text, of which the first one has an index: the fault of the first
part that is no rule. -/
def PartsFault (index : Nat) (parts : List (List Char)) (e : FilterError) : Prop :=
  ∃ i part, parts[i]? = some part ∧ (∀ earlier ∈ parts.take i, ∃ rule, RuleText earlier rule) ∧
    RuleFault (index + i) part e

/-- What is wrong with a text. -/
def FilterFault (cs : List Char) (e : FilterError) : Prop :=
  ∃ inner parts, Trims cs inner ∧ inner ≠ [] ∧ Splits '|' inner parts ∧ PartsFault 0 parts e

variable {index : Nat} {parts : List (List Char)} {cs : List Char} {f : Filter} {e : FilterError}

theorem readRules_ok : readRules index parts = .ok f ↔ List.Forall₂ RuleText parts f := by
  induction parts generalizing index f with
  | nil =>
    rw [readRules, List.forall₂_nil_left_iff]
    exact ⟨fun h => (Except.ok.inj h).symm, fun h => h ▸ rfl⟩
  | cons part parts ih =>
    rw [readRules, List.forall₂_cons_left_iff]
    simp only [bind_eq_ok, FilterRule.read_ok, ih, pure, Except.pure, Except.ok.injEq]
    constructor
    · rintro ⟨rule, hrule, rules, hrules, rfl⟩
      exact ⟨rule, rules, hrule, hrules, rfl⟩
    · rintro ⟨rule, rules, hrule, hrules, rfl⟩
      exact ⟨rule, hrule, rules, hrules, rfl⟩

/-- The fault is that of the first part, or the first part is a rule and the fault is behind it. -/
theorem partsFault_cons {part : List Char} :
    PartsFault index (part :: parts) e ↔
      RuleFault index part e ∨ (∃ rule, RuleText part rule) ∧ PartsFault (index + 1) parts e := by
  constructor
  · rintro ⟨i, bad, hi, hearlier, hfault⟩
    cases i with
    | zero =>
      obtain rfl : part = bad := Option.some.inj hi
      exact .inl hfault
    | succ i =>
      refine .inr ⟨hearlier part List.mem_cons_self, i, bad, hi, fun earlier he => ?_, ?_⟩
      · exact hearlier earlier (List.mem_cons_of_mem _ he)
      · rwa [Nat.add_right_comm, Nat.add_assoc]
  · rintro (hfault | ⟨hrule, i, bad, hi, hearlier, hfault⟩)
    · exact ⟨0, part, rfl, nofun, hfault⟩
    · refine ⟨i + 1, bad, hi, fun earlier he => ?_, ?_⟩
      · rcases List.mem_cons.mp he with rfl | he
        · exact hrule
        · exact hearlier earlier he
      · rwa [Nat.add_right_comm, Nat.add_assoc] at hfault

theorem readRules_error : readRules index parts = .error e ↔ PartsFault index parts e := by
  induction parts generalizing index with
  | nil => exact ⟨nofun, fun ⟨_, _, hi, _⟩ => nomatch hi⟩
  | cons part parts ih =>
    rw [readRules, partsFault_cons, ← ih]
    simp only [bind_eq_error, FilterRule.read_ok, FilterRule.read_error, pure, Except.pure, reduceCtorEq,
      and_false, exists_false, or_false]
    exact or_congr_right exists_and_right

theorem read_blank (h : Trims cs []) : read cs = .ok [] := by
  rw [read, trims_iff.mp h]

theorem read_parts {inner : List Char} (htrims : Trims cs inner) (hne : inner ≠ [])
    (hsplits : Splits '|' inner parts) : read cs = readRules 0 parts := by
  rw [read, trims_iff.mp htrims]
  split
  · exact absurd rfl hne
  · rw [splits_iff.mp hsplits]

/-- The text is blank, or it has parts. -/
theorem blank_or_parts (cs : List Char) :
    Trims cs [] ∨ ∃ inner parts, Trims cs inner ∧ inner ≠ [] ∧ Splits '|' inner parts := by
  by_cases hblank : Text.strip cs = []
  · exact .inl (trims_iff.mpr hblank)
  · exact .inr ⟨_, _, Text.strip_trims cs, hblank, Text.splitAt_splits '|' _⟩

theorem read_ok : read cs = .ok f ↔ FilterText cs f := by
  constructor
  · intro h
    rcases blank_or_parts cs with hblank | ⟨inner, parts, htrims, hne, hsplits⟩
    · rw [read_blank hblank] at h
      cases h
      exact .empty hblank
    · rw [read_parts htrims hne hsplits] at h
      exact .rules htrims hne hsplits (readRules_ok.mp h)
  · intro h
    cases h with
    | empty hblank => exact read_blank hblank
    | rules htrims hne hsplits hrules => rw [read_parts htrims hne hsplits, readRules_ok.mpr hrules]

theorem read_error : read cs = .error e ↔ FilterFault cs e := by
  constructor
  · intro h
    rcases blank_or_parts cs with hblank | ⟨inner, parts, htrims, hne, hsplits⟩
    · rw [read_blank hblank] at h
      cases h
    · rw [read_parts htrims hne hsplits] at h
      exact ⟨inner, parts, htrims, hne, hsplits, readRules_error.mp h⟩
  · rintro ⟨inner, parts, htrims, hne, hsplits, hfault⟩
    rw [read_parts htrims hne hsplits, readRules_error.mpr hfault]

/-- A text is read as a filter exactly if it is the text of that filter, and it is refused with an error
exactly if that is the first fault in it. -/
theorem parse_reads_grammar (s : String) :
    (∀ f, parse s = .ok f ↔ FilterText s.toList f) ∧
      ∀ e, parse s = .error e ↔ FilterFault s.toList e :=
  ⟨fun _ => read_ok, fun _ => read_error⟩

end Filter
end RemoteUsb
