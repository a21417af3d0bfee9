import Concordance.Proofs.DecimalReading
import Concordance.Proofs.HexReading

/-!
What a JSON text is, said by a grammar of its own: numbers, strings with their escapes, arrays and objects,
without blanks between their parts. Every value is rendered as a text of this grammar. No text of the grammar
holds a control character, so it is a single line.
-/
namespace Concordance.JsonSpelling
open DecimalReading TextCuts

/-! ## Numbers -/

/-- At least one decimal digit, and nothing else. -/
def Digits (t : Text) : Prop := t ≠ [] ∧ ∀ c ∈ t, c.isDigit = true

/-- The part of a number in front of the point. A zero stands there only by itself. -/
def Whole (t : Text) : Prop := Digits t ∧ (t.head? = some '0' → t = ['0'])

/-- The point and the places behind it, if there are any. -/
inductive Fraction : Text → Prop where
  | absent : Fraction []
  | present {digits : Text} (places : Digits digits) : Fraction ('.' :: digits)

/-- The exponent of a number, if there is one. -/
inductive Exponent : Text → Prop where
  | absent : Exponent []
  | present {letter : Char} {sign digits : Text} (exponent : letter = 'e' ∨ letter = 'E')
      (signed : sign ∈ [[], ['+'], ['-']]) (places : Digits digits) :
      Exponent (letter :: sign ++ digits)

/-- A number. A minus may stand in front of it, but no plus. -/
inductive Number : Text → Prop where
  | mk (negative : Bool) {whole fraction exponent : Text} (front : Whole whole)
      (places : Fraction fraction) (scale : Exponent exponent) :
      Number (FloatText.sign negative ++ whole ++ fraction ++ exponent)

theorem digits_decimal_nat (n : Nat) : Digits (Integer.decimalNat n) :=
  ⟨decimal_nat_nonempty n, decimal_nat_digit n⟩

theorem digits_padded {t : Text} (digits : Digits t) (width : Nat) : Digits (Text.padLeft '0' width t) := by
  refine ⟨by simp [Text.padLeft, digits.1], fun c member => ?_⟩
  cases List.mem_append.mp member with
  | inl zero => rw [(List.mem_replicate.mp zero).2]; rfl
  | inr given => exact digits.2 c given

/-- Only zero itself begins with a zero. -/
theorem decimal_nat_head {n : Nat} (positive : n ≠ 0) : (Integer.decimalNat n).head? ≠ some '0' := by
  have first : ∀ value < 10, value ≠ 0 → value.digitChar ≠ '0' := by decide
  unfold Integer.decimalNat
  induction n using Nat.strongRecOn with
  | ind n ih =>
    rw [Nat.toDigits_eq_if (by decide)]
    split
    · rename_i small
      simpa using first n small positive
    · rename_i large
      have head := ih (n / 10) (by omega) (by omega)
      obtain ⟨c, rest, form⟩ := List.exists_cons_of_ne_nil (@Nat.toDigits_ne_nil (n / 10) 10)
      rw [form] at head ⊢
      simpa using head

theorem whole_decimal_nat (n : Nat) : Whole (Integer.decimalNat n) := by
  refine ⟨digits_decimal_nat n, fun zero => ?_⟩
  by_cases positive : n = 0
  · subst positive
    rfl
  · exact absurd zero (decimal_nat_head positive)

theorem whole_digit {c : Char} (digit : c.isDigit = true) : Whole [c] := by
  refine ⟨⟨by simp, by simpa using digit⟩, fun zero => ?_⟩
  rw [Option.some.inj zero]

theorem number_decimal (n : Int) : Number (Integer.decimal n) := by
  have form : Integer.decimal n =
      FloatText.sign (n < 0) ++ Integer.decimalNat n.natAbs ++ [] ++ [] := by
    by_cases negative : n < 0 <;> simp [Integer.decimal, FloatText.sign, negative]
  rw [form]
  exact .mk _ (whole_decimal_nat _) .absent .absent

/-- The text that is cut in front of its last places has a whole number in front, if it was filled up with
no more zeros than needed. -/
theorem number_padded (negative : Bool) (n : Nat) {places : Nat} (some : 0 < places) :
    let digits := Text.padLeft '0' (places + 1) (Integer.decimalNat n)
    Number (FloatText.sign negative ++ (digits.take (digits.length - places) ++
      '.' :: digits.drop (digits.length - places))) := by
  intro digits
  have all : Digits digits := digits_padded (digits_decimal_nat n) _
  have length : digits.length = max (places + 1) (Integer.decimalNat n).length := by
    simp only [digits, Text.padLeft, List.length_append, List.length_replicate]
    omega
  have front : Whole (digits.take (digits.length - places)) := by
    refine ⟨⟨?_, fun c member => all.2 c (List.mem_of_mem_take member)⟩, fun zero => ?_⟩
    · rw [Ne, List.take_eq_nil_iff]
      simp only [all.1, or_false]
      omega
    · by_cases filled : (Integer.decimalNat n).length ≤ places
      · -- One character stands in front of the places.
        rw [show digits.length - places = 1 by omega] at zero ⊢
        obtain ⟨c, rest, form⟩ := List.exists_cons_of_ne_nil all.1
        rw [form] at zero ⊢
        simpa using zero
      · -- Nothing was filled up, and only zero itself begins with a zero.
        have same : digits = Integer.decimalNat n := by
          simp [digits, Text.padLeft, show places + 1 - (Integer.decimalNat n).length = 0 by omega]
        rw [List.head?_take, if_neg (by omega), same] at zero
        have single := congrArg List.length ((whole_decimal_nat n).2 zero)
        rw [List.length_singleton] at single
        omega
  have behind : Digits (digits.drop (digits.length - places)) := by
    refine ⟨?_, fun c member => all.2 c (List.mem_of_mem_drop member)⟩
    rw [Ne, List.drop_eq_nil_iff]
    omega
  simpa using Number.mk negative front (.present behind) .absent

theorem number_positional (negative markWhole : Bool) (d : Decimal) :
    Number (FloatText.sign negative ++ FloatText.positional markWhole d) := by
  unfold FloatText.positional
  split
  · have front := whole_decimal_nat (d.digits * 10 ^ d.exponent.toNat)
    cases markWhole with
    | false => simpa using Number.mk negative front .absent .absent
    | true =>
      have zero : Digits ['0'] := ⟨by simp, by simp⟩
      simpa using Number.mk negative front (.present zero) .absent
  · exact number_padded negative d.digits (by omega)

theorem exponent_text (width : Nat) (e : Int) : Exponent ('e' :: FloatText.exponentText width e) := by
  have digits := digits_padded (digits_decimal_nat e.natAbs) width
  unfold FloatText.exponentText
  split
  · exact @Exponent.present 'e' ['-'] _ (.inl rfl) (by simp) digits
  · exact @Exponent.present 'e' ['+'] _ (.inl rfl) (by simp) digits

theorem number_scientific (negative : Bool) (n width : Nat) (e : Int) :
    Number (FloatText.sign negative ++ (FloatText.pointAfterFirst (Integer.decimalNat n) ++
      'e' :: FloatText.exponentText width e)) := by
  have digits := decimal_nat_digit n
  cases form : Integer.decimalNat n with
  | nil => exact absurd form (decimal_nat_nonempty n)
  | cons first rest =>
    rw [form] at digits
    have front := whole_digit (digits first (by simp))
    cases rest with
    | nil =>
      simpa [FloatText.pointAfterFirst] using Number.mk negative front .absent (exponent_text width e)
    | cons next places =>
      have behind : Digits (next :: places) := ⟨by simp, fun c member => digits c (by simp [member])⟩
      simpa [FloatText.pointAfterFirst] using
        Number.mk negative front (.present behind) (exponent_text width e)

/-- Every decimal is laid out as a number, whatever the layout. -/
theorem number_layOut (negative : Bool) (layout : FloatLayout) (d : Decimal) :
    Number (FloatText.sign negative ++ FloatText.layOut layout d) := by
  unfold FloatText.layOut
  simp only
  split
  · exact number_positional negative layout.markWhole d
  · exact number_scientific negative d.digits layout.exponentDigits _

/-! ## Strings -/

/-- The letters that stand for characters behind a backslash. -/
def shortEscapes : List (Char × Char) :=
  [('"', '"'), ('\\', '\\'), ('/', '/'), ('\x08', 'b'), ('\x0c', 'f'), ('\n', 'n'), ('\r', 'r'),
    ('\t', 't')]

/-- A character inside a string: as it is, or escaped by a letter or by four hexadecimal digits. -/
inductive Character : Char → Text → Prop where
  | plain {c : Char} (visible : 0x20 ≤ c.toNat) (noQuote : c ≠ '"') (noEscape : c ≠ '\\') :
      Character c [c]
  | short {c letter : Char} (known : (c, letter) ∈ shortEscapes) : Character c ['\\', letter]
  | numeric {c : Char} {digits : Text} (four : digits.length = 4)
      (value : Json.hexNumber? digits = some c.toNat) : Character c ('\\' :: 'u' :: digits)

/-- The characters of a text, each spelled inside a string. -/
inductive Characters : Text → Text → Prop where
  | nil : Characters [] []
  | cons {c : Char} {t spelled rest : Text} (first : Character c spelled) (others : Characters t rest) :
      Characters (c :: t) (spelled ++ rest)

inductive Quoted : Text → Text → Prop where
  | mk {t spelled : Text} (inside : Characters t spelled) : Quoted t ('"' :: spelled ++ ['"'])

theorem character_render (c : Char) : Character c (Json.renderChar c) := by
  unfold Json.renderChar
  split
  · exact .short (by decide)
  · exact .short (by decide)
  · exact .short (by decide)
  · exact .short (by decide)
  · exact .short (by decide)
  · exact .short (by decide)
  · exact .short (by decide)
  · rename_i noQuote noEscape _ _ _ _ _
    split
    · rename_i control
      have four : ∀ value < 0x20, (Text.hex 4 value).length = 4 := by decide
      exact .numeric (four c.toNat control) (HexReading.read_hex 4 c.toNat)
    · exact .plain (by omega) noQuote noEscape

theorem quoted_render (t : Text) : Quoted t (Json.renderText t) := by
  refine .mk ?_
  induction t with
  | nil => exact .nil
  | cons c rest ih => exact .cons (character_render c) ih

/-! ## Values -/

mutual

/-- A value as a text. A floating-point number is spelled by the decimal that identifies it, and as null if
it is no number on the real line. -/
inductive Value : Json → Text → Prop where
  | null : Value .null "null".toList
  | yes : Value (.bool true) "true".toList
  | no : Value (.bool false) "false".toList
  | int {n : Int} (number : Number (Integer.decimal n)) : Value (.int n) (Integer.decimal n)
  | float {x : Float} {negative : Bool} {mantissa : Nat} {exponent : Int}
      (exact : Double.ofFloat x = .finite negative mantissa exponent)
      (number : Number (FloatText.shortest Json.floatLayout x)) :
      Value (.float x) (FloatText.shortest Json.floatLayout x)
  | infinite {x : Float} {negative : Bool} (beyond : Double.ofFloat x = .infinite negative) :
      Value (.float x) "null".toList
  | nan {x : Float} (none : Double.ofFloat x = .nan) : Value (.float x) "null".toList
  | text {t spelled : Text} (quoted : Quoted t spelled) : Value (.text t) spelled
  | array {items : List Json} {spelled : List Text} (each : Values items spelled) :
      Value (.array items) ('[' :: Text.join [','] spelled ++ [']'])
  | object {fields : List (Text × Json)} {spelled : List Text} (each : Fields fields spelled) :
      Value (.object fields) ('\x7b' :: Text.join [','] spelled ++ ['\x7d'])

inductive Values : List Json → List Text → Prop where
  | nil : Values [] []
  | cons {value : Json} {spelled : Text} {values : List Json} {others : List Text}
      (first : Value value spelled) (rest : Values values others) :
      Values (value :: values) (spelled :: others)

/-- Fields, each as a text: a name between quotes, a colon and a value. -/
inductive Fields : List (Text × Json) → List Text → Prop where
  | nil : Fields [] []
  | cons {name quoted : Text} {value : Json} {spelled : Text} {fields : List (Text × Json)}
      {others : List Text} (named : Quoted name quoted) (first : Value value spelled)
      (rest : Fields fields others) :
      Fields ((name, value) :: fields) ((quoted ++ ':' :: spelled) :: others)

end

theorem float_render (x : Float) : Value (.float x) (Json.renderFloat x) := by
  unfold Json.renderFloat
  split
  · rename_i negative mantissa exponent exact
    refine .float exact ?_
    rw [FloatText.shortest, exact]
    exact number_layOut negative _ _
  · rename_i beyond
    cases form : Double.ofFloat x with
    | nan => exact .nan form
    | infinite negative => exact .infinite form
    | finite negative mantissa exponent => exact absurd form (beyond negative mantissa exponent)

mutual

/-- Every value is rendered as a text of the grammar. -/
theorem value_render (value : Json) : Value value value.render :=
  match value with
  | .null => .null
  | .bool true => .yes
  | .bool false => .no
  | .int n => .int (number_decimal n)
  | .float x => float_render x
  | .text t => .text (quoted_render t)
  | .array items => .array (values_render items)
  | .object fields => .object (fields_render fields)

theorem values_render (values : List Json) : Values values (Json.renderItems values) :=
  match values with
  | [] => .nil
  | value :: values => .cons (value_render value) (values_render values)

theorem fields_render (fields : List (Text × Json)) : Fields fields (Json.renderFields fields) :=
  match fields with
  | [] => .nil
  | (name, value) :: fields => .cons (quoted_render name) (value_render value) (fields_render fields)

end

/-! ## One line -/

/-- No control character, so no end of a line either. -/
def Visible (t : Text) : Prop := ∀ c ∈ t, 0x20 ≤ c.toNat

@[simp] theorem visible_nil : Visible [] := by simp [Visible]

@[simp] theorem visible_cons {c : Char} {t : Text} : Visible (c :: t) ↔ 0x20 ≤ c.toNat ∧ Visible t := by
  simp [Visible]

@[simp] theorem visible_append {s t : Text} : Visible (s ++ t) ↔ Visible s ∧ Visible t := by
  simp [Visible, or_imp, forall_and]

theorem visible_join {pieces : List Text} (each : ∀ piece ∈ pieces, Visible piece) :
    Visible (Text.join [','] pieces) := by
  intro c member
  rcases mem_join member with comma | ⟨piece, listed, inside⟩
  · rw [List.mem_singleton.mp comma]
    decide
  · exact each piece listed c inside

theorem Digits.visible {t : Text} (digits : Digits t) : Visible t := by
  intro c member
  have range : 48 ≤ c.toNat ∧ c.toNat ≤ 57 := by
    simpa [Char.isDigit, UInt32.le_iff_toNat_le] using digits.2 c member
  omega

theorem Number.visible {t : Text} (number : Number t) : Visible t := by
  obtain @⟨negative, whole, fraction, exponent, front, places, scale⟩ := number
  have sign : Visible (FloatText.sign negative) := by cases negative <;> simp [FloatText.sign]
  have behind : Visible fraction := by
    cases places with
    | absent => simp
    | present digits => simp [digits.visible]
  have power : Visible exponent := by
    cases scale with
    | absent => simp
    | present letter signed digits =>
      have sign : ∀ sign ∈ [[], ['+'], ['-']], Visible sign := by simp
      rcases letter with rfl | rfl <;> simp [sign _ signed, digits.visible]
  simp [sign, front.1.visible, behind, power]

theorem Character.visible {c : Char} {t : Text} (spelled : Character c t) : Visible t := by
  cases spelled with
  | plain visible => simp [visible]
  | short known =>
    have letters : ∀ pair ∈ shortEscapes, 0x20 ≤ pair.2.toNat := by decide
    have letter := letters _ known
    simp [letter]
  | numeric four value =>
    have digits : Visible _ := fun c member =>
      Nat.le_trans (by decide) (HexReading.digits_of_number value c member)
    simp [digits]

theorem Quoted.visible {t spelled : Text} (quoted : Quoted t spelled) : Visible spelled := by
  obtain ⟨inside⟩ := quoted
  have body : ∀ {t spelled : Text}, Characters t spelled → Visible spelled := by
    intro t spelled inside
    induction inside with
    | nil => simp
    | cons first _ ih => simp [first.visible, ih]
  simp [body inside]

mutual

/-- A text of the grammar holds no control character. -/
theorem Value.visible (value : Json) {t : Text} (spelled : Value value t) : Visible t := by
  cases value with
  | null => cases spelled; simp
  | bool b => cases spelled <;> simp
  | int n => cases spelled with | int number => exact number.visible
  | float x =>
    cases spelled with
    | float _ number => exact number.visible
    | infinite => simp
    | nan => simp
  | text s => cases spelled with | text quoted => exact quoted.visible
  | array items =>
    cases spelled with
    | array each =>
      have inside := visible_join (Values.visible items each)
      simp [inside]
  | object fields =>
    cases spelled with
    | object each =>
      have inside := visible_join (Fields.visible fields each)
      simp [inside]

theorem Values.visible (values : List Json) {pieces : List Text} (spelled : Values values pieces) :
    ∀ piece ∈ pieces, Visible piece := by
  cases values with
  | nil => cases spelled; simp
  | cons value values =>
    cases spelled with
    | cons first rest =>
      exact List.forall_mem_cons.mpr ⟨Value.visible value first, Values.visible values rest⟩

theorem Fields.visible (fields : List (Text × Json)) {pieces : List Text}
    (spelled : Fields fields pieces) : ∀ piece ∈ pieces, Visible piece := by
  cases fields with
  | nil => cases spelled; simp
  | cons field fields =>
    cases spelled with
    | cons named first rest =>
      refine List.forall_mem_cons.mpr ⟨?_, Fields.visible fields rest⟩
      simp [named.visible, Value.visible _ first]

end

end Concordance.JsonSpelling
