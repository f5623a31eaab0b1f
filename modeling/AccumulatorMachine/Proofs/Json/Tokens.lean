import AccumulatorMachine.Proofs.Json.Grammar

/-! The tokens of JSON texts. A text may be cut into tokens piece by piece, if a number or a name is
followed by what cannot belong to it. -/
namespace AccumulatorMachine.Json

/-! ### Strings -/

theorem HexDigit.hexDigit? {c : Char} {value : Nat} (h : HexDigit c value) :
    hexDigit? c = some value := by
  obtain ⟨hlt, hc⟩ := h
  have hall : ∀ v < 16, Json.hexDigit? v.digitChar = some v ∧
      Json.hexDigit? v.digitChar.toUpper = some v := by decide
  obtain ⟨hlower, hupper⟩ := hall value hlt
  obtain rfl | rfl := hc
  · exact hlower
  · exact hupper

theorem CodeUnit.exists_codeUnit? {ds : List Char} {n : Nat} (h : CodeUnit ds n) :
    ∃ a b c d, ds = [a, b, c, d] ∧ codeUnit? a b c d = some n := by
  cases h with
  | @mk a b c d w x y z ha hb hc hd =>
    refine ⟨a, b, c, d, rfl, ?_⟩
    have hvalue : ((w * 16 + x) * 16 + y) * 16 + z = Nat.ofDigits 16 [z, y, x, w] := by
      simp only [Nat.ofDigits_cons, Nat.ofDigits_nil]
      omega
    simp [codeUnit?, ha.hexDigit?, hb.hexDigit?, hc.hexDigit?, hd.hexDigit?, hvalue]

theorem Escape.unquote {e c : Char} (h : Escape e c) (rest : List Char) :
    unquote ('\\' :: e :: rest) = (Json.unquote rest).map (prepend c) := by
  cases h <;> rfl

theorem Stands.unquote {cs : List Char} {c : Char} (h : Stands cs c) (rest : List Char) :
    unquote (cs ++ rest) = (Json.unquote rest).map (prepend c) := by
  cases h with
  | raw hcontrol hquote hbackslash =>
    have hnot : ¬ c.toNat < 0x20 := Nat.not_lt_of_le hcontrol
    simp [Json.unquote, hbackslash, hnot]
  | short h => exact h.unquote rest
  | code h hhigh hlow =>
    obtain ⟨a, b, c, d, rfl, hunit⟩ := h.exists_codeUnit?
    simp [Json.unquote, hunit, hhigh, hlow]
  | pair h h' hhigh hlow =>
    obtain ⟨a, b, c, d, rfl, hunit⟩ := h.exists_codeUnit?
    obtain ⟨a', b', c', d', rfl, hunit'⟩ := h'.exists_codeUnit?
    simp [Json.unquote, hunit, hunit', hhigh, hlow]

theorem Quoted.unquote {cs text : List Char} (h : Quoted cs text) (rest : List Char) :
    unquote (cs ++ '"' :: rest) = some (text, rest) := by
  induction h with
  | nil => rfl
  | cons h _ ih => rw [List.append_assoc, h.unquote, ih, Option.map_some, prepend]

/-! ### Numbers -/

/-- The text does not begin with such a character. -/
def Stops (p : Char → Bool) (cs : List Char) : Prop := ∀ c ∈ cs.head?, p c = false

theorem stops_cons {p : Char → Bool} {c : Char} (h : p c = false) (cs : List Char) :
    Stops p (c :: cs) := by
  rintro _ ⟨⟩
  exact h

theorem takeWhile_append_stops {p : Char → Bool} {cs rest : List Char} (h : ∀ c ∈ cs, p c = true)
    (hrest : Stops p rest) :
    (cs ++ rest).takeWhile p = cs ∧ (cs ++ rest).dropWhile p = rest := by
  rw [List.takeWhile_append_of_pos h, List.dropWhile_append_of_pos h]
  cases rest with
  | nil => simp
  | cons c rest =>
    have hc : p c = false := hrest c rfl
    simp [hc]

theorem digits?_append {ds rest : List Char} (h : Text.Digits ds) (hrest : Stops Char.isDigit rest) :
    digits? (ds ++ rest) = some rest := by
  obtain ⟨htake, hdrop⟩ := takeWhile_append_stops h.digit hrest
  simp [digits?, htake, hdrop, h.ne_nil]

theorem digits?_digits {ds : List Char} (h : Text.Digits ds) : digits? ds = some [] := by
  have happend : digits? (ds ++ []) = some [] := digits?_append h nofun
  rwa [List.append_nil] at happend

theorem Exponent.isExponent {cs : List Char} (h : Exponent cs) : isExponent cs = true := by
  cases h with
  | absent => rfl
  | @digits e sign ds he hsign h =>
    have hletter : (e == 'e' || e == 'E') = true := by simpa using he
    have hdigits := digits?_digits h
    obtain rfl | rfl | rfl := hsign
    · rw [List.nil_append, Json.isExponent, hletter, Bool.true_and, beq_iff_eq]
      · exact hdigits
      · rintro ds rfl
        cases h.digit '+' List.mem_cons_self
      · rintro ds rfl
        cases h.digit '-' List.mem_cons_self
    · simpa [Json.isExponent, hdigits] using he
    · simpa [Json.isExponent, hdigits] using he

theorem Exponent.stops {cs : List Char} (h : Exponent cs) : Stops Char.isDigit cs := by
  cases h with
  | absent => nofun
  | digits he => exact stops_cons (by obtain rfl | rfl := he <;> rfl) _

theorem Fraction.stops {fraction exponent : List Char} (h : Fraction fraction)
    (hexponent : Exponent exponent) : Stops Char.isDigit (fraction ++ exponent) := by
  cases h with
  | absent => exact hexponent.stops
  | digits => exact stops_cons rfl _

theorem Fraction.isFraction {fraction exponent : List Char} (h : Fraction fraction)
    (hexponent : Exponent exponent) : isFraction (fraction ++ exponent) = true := by
  have htrue := hexponent.isExponent
  cases h with
  | absent =>
    cases hexponent with
    | absent => rfl
    | digits he =>
      obtain rfl | rfl := he <;> exact htrue
  | digits h =>
    simp [Json.isFraction, digits?_append h hexponent.stops, htrue]

theorem Whole.isMagnitude {whole rest : List Char} (h : Whole whole) (hends : Stops Char.isDigit rest)
    (hrest : isFraction rest = true) : isMagnitude (whole ++ rest) = true := by
  cases h with
  | zero => exact hrest
  | digits h hzero =>
    have hdigits := digits?_append h hends
    unfold Json.isMagnitude
    split
    · next heq =>
      have hhead : (whole ++ rest).head? = some '0' := by
        rw [heq]
        rfl
      rw [List.head?_append_of_ne_nil whole h.ne_nil] at hhead
      exact absurd hhead hzero
    · simp only [hdigits, hrest]

/-- A magnitude begins with a digit. -/
theorem isNumber_of_isMagnitude {cs : List Char} (h : isMagnitude cs = true) : isNumber cs = true := by
  unfold isNumber
  split
  · simp [isMagnitude, digits?] at h
  · exact h

theorem Number.isNumber {cs : List Char} (h : Number cs) : isNumber cs = true := by
  obtain ⟨hsign, hwhole, hfraction, hexponent⟩ := h
  have hmagnitude := hwhole.isMagnitude (hfraction.stops hexponent)
    (hfraction.isFraction hexponent)
  obtain rfl | rfl := hsign
  · exact isNumber_of_isMagnitude hmagnitude
  · exact hmagnitude

/-! ### Plain characters -/

theorem isPlain_of_isDigit {c : Char} (h : c.isDigit = true) : isPlain c = true := by
  simp [isPlain, Char.isAlphanum, h]

theorem not_isPlain_of_isSpace {c : Char} (h : isSpace c = true) : isPlain c = false := by
  simp only [isSpace, Bool.or_eq_true, beq_iff_eq] at h
  obtain ((rfl | rfl) | rfl) | rfl := h <;> rfl

theorem not_isPlain_of_punctuation? {c : Char} {t : Token} (h : punctuation? c = some t) :
    isPlain c = false := by
  unfold punctuation? at h
  split at h <;> first | rfl | cases h

theorem not_isSpace_of_punctuation? {c : Char} {t : Token} (h : punctuation? c = some t) :
    isSpace c = false := by
  unfold punctuation? at h
  split at h <;> first | rfl | cases h

theorem Whole.isPlain {cs : List Char} (h : Whole cs) : ∀ c ∈ cs, isPlain c = true := by
  cases h with
  | zero => exact List.all_eq_true.mp rfl
  | digits h => exact fun c hc => isPlain_of_isDigit (h.digit c hc)

theorem Fraction.isPlain {cs : List Char} (h : Fraction cs) : ∀ c ∈ cs, isPlain c = true := by
  cases h with
  | absent => nofun
  | digits h => exact List.forall_mem_cons.mpr ⟨rfl, fun c hc => isPlain_of_isDigit (h.digit c hc)⟩

theorem Exponent.isPlain {cs : List Char} (h : Exponent cs) : ∀ c ∈ cs, isPlain c = true := by
  cases h with
  | absent => nofun
  | digits he hsign h =>
    refine List.forall_mem_cons.mpr ⟨?_, List.forall_mem_append.mpr ⟨?_, ?_⟩⟩
    · obtain rfl | rfl := he <;> rfl
    · obtain rfl | rfl | rfl := hsign <;> exact List.all_eq_true.mp rfl
    · exact fun c hc => isPlain_of_isDigit (h.digit c hc)

theorem Number.isPlain {cs : List Char} (h : Number cs) : ∀ c ∈ cs, isPlain c = true := by
  obtain ⟨hsign, hwhole, hfraction, hexponent⟩ := h
  refine List.forall_mem_append.mpr ⟨?_, List.forall_mem_append.mpr ⟨hwhole.isPlain,
    List.forall_mem_append.mpr ⟨hfraction.isPlain, hexponent.isPlain⟩⟩⟩
  obtain rfl | rfl := hsign <;> exact List.all_eq_true.mp rfl

/-- A number is none of the names. -/
theorem Number.plain? {cs : List Char} (h : Number cs) : plain? cs = some (.number cs) := by
  have hnumber := h.isNumber
  have hname (name : String) (hnot : Json.isNumber name.toList = false) : cs ≠ name.toList := by
    rintro rfl
    cases hnumber.symm.trans hnot
  unfold Json.plain?
  rw [if_neg (hname "null" (by decide)), if_neg (hname "true" (by decide)),
    if_neg (hname "false" (by decide)), if_pos hnumber]

/-! ### Tokens -/

/-- What is at the beginning of a text, a space or a token, and what follows it. -/
def first? (c : Char) (cs : List Char) : Option (Option Token × List Char) :=
  if isSpace c then some (none, cs)
  else if c = '"' then
    (unquote cs).map fun (text, rest) => (some (.string (String.ofList text)), rest)
  else
    match punctuation? c with
    | some t => some (some t, cs)
    | none =>
      (plain? ((c :: cs).takeWhile isPlain)).map fun t => (some t, (c :: cs).dropWhile isPlain)

section
variable {c : Char} {cs rest : List Char} {t : Token}

theorem first?_space (h : isSpace c = true) : first? c cs = some (none, cs) := by
  rw [first?, if_pos h]

theorem first?_punctuation (h : punctuation? c = some t) : first? c cs = some (some t, cs) := by
  have hspace : isSpace c = false := not_isSpace_of_punctuation? h
  have hquote : c ≠ '"' := by
    rintro rfl
    cases h
  simp [first?, hspace, hquote, h]

theorem first?_quote {text : List Char} (h : unquote cs = some (text, rest)) :
    first? '"' cs = some (some (.string (String.ofList text)), rest) := by
  have hspace : isSpace '"' = false := by decide
  simp [first?, hspace, h]

theorem first?_plain (hplain : ∀ d ∈ c :: cs, isPlain d = true) (ht : plain? (c :: cs) = some t)
    (hrest : Stops isPlain rest) : first? c (cs ++ rest) = some (some t, rest) := by
  have hc : isPlain c = true := hplain c List.mem_cons_self
  have hspace : isSpace c = false := by
    cases hs : isSpace c with
    | false => rfl
    | true => cases hc.symm.trans (not_isPlain_of_isSpace hs)
  have hquote : c ≠ '"' := by
    rintro rfl
    cases hc
  have hpunctuation : punctuation? c = none := by
    cases hp : punctuation? c with
    | none => rfl
    | some => cases hc.symm.trans (not_isPlain_of_punctuation? hp)
  obtain ⟨htake, hdrop⟩ := takeWhile_append_stops hplain hrest
  rw [List.cons_append] at htake hdrop
  simp [first?, hspace, hquote, hpunctuation, htake, hdrop, ht]

end

theorem tokensWithin_nil (n : Nat) : tokensWithin n [] = some [] := by
  cases n <;> rfl

theorem tokensWithin_cons (n : Nat) (c : Char) (cs : List Char) :
    tokensWithin (n + 1) (c :: cs) =
      (first? c cs).bind fun first => (tokensWithin n first.2).map (first.1.toList ++ ·) := by
  rw [tokensWithin, first?]
  split
  · simp
  · split
    · cases unquote cs <;> rfl
    · cases punctuation? c with
      | some t => rfl
      | none => cases plain? ((c :: cs).takeWhile isPlain) <;> rfl

theorem tokensWithin_of_first? {n : Nat} {c : Char} {cs rest : List Char} {t : Option Token}
    (h : first? c cs = some (t, rest)) :
    tokensWithin (n + 1) (c :: cs) = (tokensWithin n rest).map (t.toList ++ ·) := by
  rw [tokensWithin_cons, h, Option.bind_some]

/-- More room changes nothing. -/
theorem tokensWithin_mono {n m : Nat} {cs : List Char} {ts : List Token}
    (h : tokensWithin n cs = some ts) (hle : n ≤ m) : tokensWithin m cs = some ts := by
  induction n generalizing m cs ts with
  | zero =>
    cases cs with
    | nil => rwa [tokensWithin_nil] at h ⊢
    | cons => cases h
  | succ n ih =>
    obtain ⟨m, rfl⟩ : ∃ k, m = k + 1 := ⟨m - 1, by omega⟩
    cases cs with
    | nil => rwa [tokensWithin_nil] at h ⊢
    | cons c cs =>
      rw [tokensWithin_cons] at h
      obtain ⟨⟨t, rest⟩, hfirst, hrest⟩ := Option.bind_eq_some_iff.mp h
      obtain ⟨us, hus, rfl⟩ := Option.map_eq_some_iff.mp hrest
      rw [tokensWithin_of_first? hfirst, ih hus (Nat.le_of_succ_le_succ hle), Option.map_some]

theorem Spaces.stops {cs rest : List Char} (h : Spaces cs) (hrest : Stops isPlain rest) :
    Stops isPlain (cs ++ rest) := by
  cases cs with
  | nil => exact hrest
  | cons c cs => exact stops_cons (not_isPlain_of_isSpace (h c List.mem_cons_self)) _

/-- The text has these tokens, and whatever follows it keeps its own. -/
def Lexes (cs : List Char) (ts : List Token) : Prop :=
  ∀ n rest us, Stops isPlain rest → tokensWithin n rest = some us →
    tokensWithin (n + cs.length) (cs ++ rest) = some (ts ++ us)

namespace Lexes
variable {cs ds : List Char} {ts us : List Token}

theorem tokens? (h : Lexes cs ts) : tokens? cs = some ts := by
  have hcs := h 0 [] [] nofun rfl
  rwa [Nat.zero_add, List.append_nil, List.append_nil] at hcs

theorem nil : Lexes [] [] := fun _ _ _ _ hus => hus

theorem plain {t : Token} (hne : cs ≠ []) (hplain : ∀ c ∈ cs, isPlain c = true)
    (ht : plain? cs = some t) : Lexes cs [t] := by
  intro n rest us hrest hus
  have hlength : n + 1 ≤ n + cs.length := Nat.add_le_add_left (List.length_pos_iff.mpr hne) n
  refine tokensWithin_mono ?_ hlength
  obtain ⟨c, cs, rfl⟩ := List.exists_cons_of_ne_nil hne
  rw [List.cons_append, tokensWithin_of_first? (first?_plain hplain ht hrest), hus]
  rfl

theorem append (h : Lexes cs ts) (h' : Lexes ds us)
    (hds : ∀ rest, Stops isPlain rest → Stops isPlain (ds ++ rest)) : Lexes (cs ++ ds) (ts ++ us) := by
  intro n rest vs hrest hvs
  have htokens := h _ _ _ (hds rest hrest) (h' n rest vs hrest hvs)
  rw [List.append_assoc, List.append_assoc, List.length_append, Nat.add_comm cs.length,
    ← Nat.add_assoc]
  exact htokens

theorem space {c : Char} (hc : isSpace c = true) (h : Lexes cs ts) : Lexes (c :: cs) ts := by
  intro n rest us hrest hus
  rw [List.cons_append, List.length_cons, ← Nat.add_assoc,
    tokensWithin_of_first? (first?_space hc), h n rest us hrest hus]
  rfl

theorem spaces (hds : Spaces ds) (h : Lexes cs ts) : Lexes (ds ++ cs) ts := by
  induction ds with
  | nil => exact h
  | cons c ds ih =>
    exact (ih fun d hd => hds d (List.mem_cons_of_mem c hd)).space (hds c List.mem_cons_self)

theorem punctuation {c : Char} {t : Token} (hc : punctuation? c = some t) (h : Lexes cs ts) :
    Lexes (c :: cs) (t :: ts) := by
  intro n rest us hrest hus
  rw [List.cons_append, List.length_cons, ← Nat.add_assoc,
    tokensWithin_of_first? (first?_punctuation hc), h n rest us hrest hus]
  rfl

theorem quoted {ks text : List Char} (hk : Quoted ks text) (h : Lexes cs ts) :
    Lexes ('"' :: (ks ++ '"' :: cs)) (.string (String.ofList text) :: ts) := by
  intro n rest us hrest hus
  have hlength : n + cs.length + 1 ≤ n + ('"' :: (ks ++ '"' :: cs)).length := by
    simp only [List.length_cons, List.length_append]
    omega
  have hunquote : unquote (ks ++ '"' :: cs ++ rest) = some (text, cs ++ rest) := by
    rw [List.append_assoc]
    exact hk.unquote (cs ++ rest)
  refine tokensWithin_mono ?_ hlength
  rw [List.cons_append, tokensWithin_of_first? (first?_quote hunquote), h n rest us hrest hus]
  rfl

end Lexes

theorem Key.lexes {ks : List Char} {key : String} (h : Key ks key) {cs : List Char}
    {ts : List Token} (hcs : Lexes cs ts) : Lexes (ks ++ cs) (.string key :: .colon :: ts) := by
  cases h with
  | @mk before ks text after hbefore h hafter =>
    have htail : Lexes (after ++ ':' :: cs) (.colon :: ts) := (hcs.punctuation rfl).spaces hafter
    simpa using (htail.quoted h).spaces hbefore

end AccumulatorMachine.Json
