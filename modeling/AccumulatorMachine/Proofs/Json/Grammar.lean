import AccumulatorMachine.Json.Reader
import AccumulatorMachine.Proofs.Text.Decimal

/-! The grammar of JSON: which texts denote which values. A number denotes its literal. Written values
are texts of the grammar. -/
namespace AccumulatorMachine.Json

/-! ### Strings -/

/-- The character after a backslash, and the one that the two stand for. -/
inductive Escape : Char → Char → Prop
  | quote : Escape '"' '"'
  | backslash : Escape '\\' '\\'
  | slash : Escape '/' '/'
  | backspace : Escape 'b' '\x08'
  | formFeed : Escape 'f' '\x0c'
  | lineFeed : Escape 'n' '\n'
  | carriageReturn : Escape 'r' '\r'
  | tab : Escape 't' '\t'

/-- A hexadecimal digit in either case. -/
def HexDigit (c : Char) (value : Nat) : Prop :=
  value < 16 ∧ (c = value.digitChar ∨ c = value.digitChar.toUpper)

/-- Four hexadecimal digits, of which the last counts the ones. -/
inductive CodeUnit : List Char → Nat → Prop
  | mk {a b c d : Char} {w x y z : Nat} (ha : HexDigit a w) (hb : HexDigit b x) (hc : HexDigit c y)
      (hd : HexDigit d z) : CodeUnit [a, b, c, d] (Nat.ofDigits 16 [z, y, x, w])

/-- How a character can stand in a string. One beyond the first plane takes two code units. -/
inductive Stands : List Char → Char → Prop
  | raw {c : Char} (hcontrol : 0x20 ≤ c.toNat) (hquote : c ≠ '"') (hbackslash : c ≠ '\\') :
      Stands [c] c
  | short {e c : Char} (h : Escape e c) : Stands ['\\', e] c
  | code {ds : List Char} {n : Nat} (h : CodeUnit ds n) (hhigh : isHighSurrogate n = false)
      (hlow : isLowSurrogate n = false) : Stands ('\\' :: 'u' :: ds) (Char.ofNat n)
  | pair {ds es : List Char} {high low : Nat} (h : CodeUnit ds high) (h' : CodeUnit es low)
      (hhigh : isHighSurrogate high = true) (hlow : isLowSurrogate low = true) :
      Stands ('\\' :: 'u' :: ds ++ '\\' :: 'u' :: es) (joinSurrogates high low)

/-- What stands between the quotes of a string. -/
inductive Quoted : List Char → List Char → Prop
  | nil : Quoted [] []
  | cons {cs rest text : List Char} {c : Char} (h : Stands cs c) (hrest : Quoted rest text) :
      Quoted (cs ++ rest) (c :: text)

/-! ### Numbers -/

/-- Digits without a leading zero, unless that is the only one. -/
inductive Whole : List Char → Prop
  | zero : Whole ['0']
  | digits {ds : List Char} (h : Text.Digits ds) (hzero : ds.head? ≠ some '0') : Whole ds

inductive Fraction : List Char → Prop
  | absent : Fraction []
  | digits {ds : List Char} (h : Text.Digits ds) : Fraction ('.' :: ds)

inductive Exponent : List Char → Prop
  | absent : Exponent []
  | digits {e : Char} {sign ds : List Char} (he : e = 'e' ∨ e = 'E')
      (hsign : sign = [] ∨ sign = ['+'] ∨ sign = ['-']) (h : Text.Digits ds) :
      Exponent (e :: (sign ++ ds))

inductive Number : List Char → Prop
  | mk {sign whole fraction exponent : List Char} (hsign : sign = [] ∨ sign = ['-'])
      (hwhole : Whole whole) (hfraction : Fraction fraction) (hexponent : Exponent exponent) :
      Number (sign ++ (whole ++ (fraction ++ exponent)))

/-! ### Values -/

/-- What may stand around values and punctuation. -/
def Spaces (cs : List Char) : Prop := ∀ c ∈ cs, isSpace c = true

/-- A key with its colon. -/
inductive Key : List Char → String → Prop
  | mk {before cs text after : List Char} (hbefore : Spaces before) (h : Quoted cs text)
      (hafter : Spaces after) :
      Key (before ++ '"' :: (cs ++ '"' :: (after ++ [':']))) (String.ofList text)

/-- The symbols of the grammar. -/
inductive Symbol where
  | value
  /-- A value with what may stand around it, such as a whole text. -/
  | element
  /-- The inside of an array that is not empty. -/
  | elements
  /-- The inside of an object that is not empty. -/
  | members

inductive Denotes : Symbol → List Char → Json → Prop
  | null : Denotes .value "null".toList .null
  | yes : Denotes .value "true".toList (.bool true)
  | no : Denotes .value "false".toList (.bool false)
  | number {cs : List Char} (h : Number cs) : Denotes .value cs (.number cs)
  | string {cs text : List Char} (h : Quoted cs text) :
      Denotes .value ('"' :: (cs ++ ['"'])) (.string (String.ofList text))
  | emptyArray {cs : List Char} (h : Spaces cs) : Denotes .value ('[' :: (cs ++ [']'])) (.array [])
  | array {cs : List Char} {j : Json} (h : Denotes .elements cs j) :
      Denotes .value ('[' :: (cs ++ [']'])) j
  | emptyObject {cs : List Char} (h : Spaces cs) : Denotes .value ('{' :: (cs ++ ['}'])) (.object [])
  | object {cs : List Char} {j : Json} (h : Denotes .members cs j) :
      Denotes .value ('{' :: (cs ++ ['}'])) j
  | element {before cs after : List Char} {j : Json} (hbefore : Spaces before)
      (h : Denotes .value cs j) (hafter : Spaces after) : Denotes .element (before ++ (cs ++ after)) j
  | lastItem {cs : List Char} {j : Json} (h : Denotes .element cs j) :
      Denotes .elements cs (.array [j])
  | item {cs rest : List Char} {j : Json} {items : List Json} (h : Denotes .element cs j)
      (hrest : Denotes .elements rest (.array items)) :
      Denotes .elements (cs ++ ',' :: rest) (.array (j :: items))
  | lastMember {ks cs : List Char} {key : String} {j : Json} (hkey : Key ks key)
      (h : Denotes .element cs j) : Denotes .members (ks ++ cs) (.object [(key, j)])
  | member {ks cs rest : List Char} {key : String} {j : Json} {members : List (String × Json)}
      (hkey : Key ks key) (h : Denotes .element cs j)
      (hrest : Denotes .members rest (.object members)) :
      Denotes .members (ks ++ (cs ++ ',' :: rest)) (.object ((key, j) :: members))

theorem spaces_nil : Spaces [] := nofun

theorem Denotes.bare {cs : List Char} {j : Json} (h : Denotes .value cs j) : Denotes .element cs j := by
  simpa using Denotes.element spaces_nil h spaces_nil

theorem Quoted.bareKey {cs text : List Char} (h : Quoted cs text) :
    Key ('"' :: (cs ++ ['"', ':'])) (String.ofList text) := by
  simpa using Key.mk spaces_nil h spaces_nil

/-! ### What is written is JSON -/

theorem codeUnit_escapeCode {n : Nat} (h : n < 0x20) :
    CodeUnit ['0', '0', (n / 16).digitChar, (n % 16).digitChar] n := by
  have hzero : HexDigit '0' 0 := ⟨by decide, .inl rfl⟩
  have hhigh : HexDigit (n / 16).digitChar (n / 16) := ⟨by omega, .inl rfl⟩
  have hlow : HexDigit (n % 16).digitChar (n % 16) := ⟨by omega, .inl rfl⟩
  have hunit := CodeUnit.mk hzero hzero hhigh hlow
  have hvalue : Nat.ofDigits 16 [n % 16, n / 16, 0, 0] = n := by
    simp only [Nat.ofDigits_cons, Nat.ofDigits_nil]
    omega
  rwa [hvalue] at hunit

theorem stands_escapeCode {c : Char} (h : c.toNat < 0x20) : Stands (escapeCode c.toNat) c := by
  have hhigh : isHighSurrogate c.toNat = false := by
    simp only [isHighSurrogate, Bool.and_eq_false_iff, decide_eq_false_iff_not]
    omega
  have hlow : isLowSurrogate c.toNat = false := by
    simp only [isLowSurrogate, Bool.and_eq_false_iff, decide_eq_false_iff_not]
    omega
  have hcode := Stands.code (codeUnit_escapeCode h) hhigh hlow
  rwa [Char.ofNat_toNat] at hcode

theorem stands_escapeChar (c : Char) : Stands (escapeChar c) c := by
  unfold escapeChar
  split
  · exact .short .quote
  · exact .short .backslash
  · exact .short .backspace
  · exact .short .formFeed
  · exact .short .lineFeed
  · exact .short .carriageReturn
  · exact .short .tab
  · next hquote hbackslash _ _ _ _ _ =>
    split
    · next hcontrol => exact stands_escapeCode hcontrol
    · next hcontrol => exact .raw (Nat.le_of_not_lt hcontrol) hquote hbackslash

theorem quoted_escape (cs : List Char) : Quoted (cs.flatMap escapeChar) cs := by
  induction cs with
  | nil => exact .nil
  | cons c cs ih =>
    rw [List.flatMap_cons]
    exact .cons (stands_escapeChar c) ih

theorem denotes_writeString (s : String) : Denotes .value (writeString s) (.string s) := by
  have h := Denotes.string (quoted_escape s.toList)
  rwa [String.ofList_toList] at h

theorem key_writeString (s : String) : Key (writeString s ++ [':']) s := by
  have h := (quoted_escape s.toList).bareKey
  rw [String.ofList_toList] at h
  simpa [writeString, quote] using h

theorem whole_writeNat (n : Nat) : Whole (Text.writeNat n) := by
  obtain rfl | hpos := Nat.eq_zero_or_pos n
  · exact .zero
  · exact .digits (Text.digits_writeNat n) (Text.head?_writeNat hpos)

theorem number_writeNat (n : Nat) : Number (Text.writeNat n) := by
  simpa using Number.mk (.inl rfl) (whole_writeNat n) .absent .absent

theorem denotes_nat (n : Nat) : Denotes .value (nat n).write (nat n) := .number (number_writeNat n)

theorem elements_writeItems {items : List Json} (hne : items ≠ [])
    (h : ∀ j ∈ items, Denotes .value j.write j) :
    ∃ cs, writeItems items = cs ++ [']'] ∧ Denotes .elements cs (.array items) := by
  induction items with
  | nil => exact absurd rfl hne
  | cons j items ih =>
    have hj := (h j List.mem_cons_self).bare
    cases items with
    | nil => exact ⟨j.write, rfl, .lastItem hj⟩
    | cons k items =>
      obtain ⟨cs, hwrite, hcs⟩ := ih (List.cons_ne_nil k items) fun i hi =>
        h i (List.mem_cons_of_mem j hi)
      have hmore : writeItems (j :: k :: items) = j.write ++ ',' :: writeItems (k :: items) := rfl
      rw [hwrite] at hmore
      exact ⟨j.write ++ ',' :: cs, by simp [hmore], .item hj hcs⟩

theorem denotes_array {items : List Json} (h : ∀ j ∈ items, Denotes .value j.write j) :
    Denotes .value (write (.array items)) (.array items) := by
  cases items with
  | nil => exact .emptyArray spaces_nil
  | cons j items =>
    obtain ⟨cs, hwrite, hcs⟩ := elements_writeItems (List.cons_ne_nil j items) h
    show Denotes .value ('[' :: writeItems (j :: items)) _
    rw [hwrite]
    exact .array hcs

theorem members_writeMembers {members : List (String × Json)} (hne : members ≠ [])
    (h : ∀ m ∈ members, Denotes .value m.2.write m.2) :
    ∃ cs, writeMembers members = cs ++ ['}'] ∧ Denotes .members cs (.object members) := by
  induction members with
  | nil => exact absurd rfl hne
  | cons m members ih =>
    obtain ⟨key, j⟩ := m
    have hj := (h (key, j) List.mem_cons_self).bare
    have hkey := key_writeString key
    have hm : writeMember (key, j) = writeString key ++ ':' :: j.write := rfl
    cases members with
    | nil =>
      have hlast : writeMembers [(key, j)] = writeMember (key, j) ++ ['}'] := rfl
      exact ⟨_, by simp [hlast, hm], .lastMember hkey hj⟩
    | cons m' members =>
      obtain ⟨cs, hwrite, hcs⟩ := ih (List.cons_ne_nil m' members) fun i hi =>
        h i (List.mem_cons_of_mem _ hi)
      have hmore : writeMembers ((key, j) :: m' :: members) =
          writeMember (key, j) ++ ',' :: writeMembers (m' :: members) := rfl
      rw [hwrite] at hmore
      exact ⟨_, by simp [hmore, hm], .member hkey hj hcs⟩

theorem denotes_object {members : List (String × Json)}
    (h : ∀ m ∈ members, Denotes .value m.2.write m.2) :
    Denotes .value (write (.object members)) (.object members) := by
  cases members with
  | nil => exact .emptyObject spaces_nil
  | cons m members =>
    obtain ⟨cs, hwrite, hcs⟩ := members_writeMembers (List.cons_ne_nil m members) h
    show Denotes .value ('{' :: writeMembers (m :: members)) _
    rw [hwrite]
    exact .object hcs

end AccumulatorMachine.Json
