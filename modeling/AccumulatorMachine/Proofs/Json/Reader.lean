import AccumulatorMachine.Proofs.Json.Tokens

/-! Every text of the grammar is read as the value that it denotes, so that it denotes only one. -/
namespace AccumulatorMachine.Json

/-! ### What tokens come to -/

/-- The tokens come to a value, whatever is open around it. -/
def Yields (ts : List Token) (j : Json) : Prop :=
  ∀ stack, ts.foldlM step (.value, stack) = some (.found j, stack)

/-- The tokens and a closing bracket end an array that has some items already. -/
def Fills (ts : List Token) (items : List Json) : Prop :=
  ∀ before stack, (ts ++ [Token.closeArray]).foldlM step (.value, .array before :: stack) =
    some (.found (.array (before.reverse ++ items)), stack)

/-- The tokens and a closing brace end an object that has some members already. -/
def Completes (ts : List Token) (members : List (String × Json)) : Prop :=
  ∀ before stack, (ts ++ [Token.closeObject]).foldlM step (.member before, stack) =
    some (.found (.object (before.reverse ++ members)), stack)

section
variable {t : Token} {ts us : List Token} {j : Json} {key : String} {stack : List Frame}
  {parse : Parse} {items : List Json} {members : List (String × Json)}

theorem Yields.fills (h : Yields ts j) : Fills ts [j] := by
  intro before stack
  rw [List.foldlM_append, h]
  simp [stepFound, step]

theorem Yields.fills_cons (h : Yields ts j) (hrest : Fills us items) :
    Fills (ts ++ .comma :: us) (j :: items) := by
  intro before stack
  have hitems := hrest (j :: before) stack
  rw [List.reverse_cons, List.append_assoc, List.singleton_append] at hitems
  rw [List.append_assoc, List.foldlM_append, h]
  exact hitems

/-- A first item is read as any other, unless it is missing. -/
theorem foldlM_firstItem (h : (t :: ts).foldlM step (.value, .array [] :: stack) = some parse) :
    (t :: ts).foldlM step (.firstItem, .array [] :: stack) = some parse := by
  cases t with
  | closeArray => cases h
  | _ => exact h

theorem Fills.yields (h : Fills ts items) :
    Yields (.openArray :: (ts ++ [.closeArray])) (.array items) := by
  intro stack
  have hitems := h [] stack
  cases ts with
  | nil => cases hitems
  | cons t ts => exact foldlM_firstItem hitems

theorem Yields.completes (h : Yields ts j) :
    Completes (.string key :: .colon :: ts) [(key, j)] := by
  intro before stack
  show (ts ++ [Token.closeObject]).foldlM step (.value, .object before key :: stack) = _
  rw [List.foldlM_append, h]
  simp [stepFound, step]

theorem Yields.completes_cons (h : Yields ts j) (hrest : Completes us members) :
    Completes (.string key :: .colon :: (ts ++ .comma :: us)) ((key, j) :: members) := by
  intro before stack
  have hmembers := hrest ((key, j) :: before) stack
  rw [List.reverse_cons, List.append_assoc, List.singleton_append] at hmembers
  show (ts ++ Token.comma :: us ++ [Token.closeObject]).foldlM step
    (.value, .object before key :: stack) = _
  rw [List.append_assoc, List.foldlM_append, h]
  exact hmembers

/-- A first member is read as any other. -/
theorem foldlM_firstMember (h : (t :: ts).foldlM step (.member [], stack) = some parse) :
    (t :: ts).foldlM step (.firstMember, stack) = some parse := by
  cases t with
  | string => exact h
  | _ => cases h

theorem Completes.yields (h : Completes ts members) :
    Yields (.openObject :: (ts ++ [.closeObject])) (.object members) := by
  intro stack
  have hmembers := h [] stack
  cases ts with
  | nil => cases hmembers
  | cons t ts => exact foldlM_firstMember hmembers

end

/-! ### Phrases -/

/-- How the tokens of a phrase are read. -/
def Reads : Symbol → List Token → Json → Prop
  | .value, ts, j | .element, ts, j => Yields ts j
  | .elements, ts, j => ∃ items, j = .array items ∧ Fills ts items
  | .members, ts, j => ∃ members, j = .object members ∧ Completes ts members

theorem Lexes.closed {cs : List Char} {ts : List Token} {c : Char} {t : Token} (h : Lexes cs ts)
    (ht : punctuation? c = some t) : Lexes (cs ++ [c]) (ts ++ [t]) :=
  h.append (Lexes.nil.punctuation ht) fun _ _ => stops_cons (not_isPlain_of_punctuation? ht) _

theorem Lexes.separated {cs ds : List Char} {ts us : List Token} (h : Lexes cs ts)
    (h' : Lexes ds us) : Lexes (cs ++ ',' :: ds) (ts ++ .comma :: us) :=
  h.append (h'.punctuation rfl) fun _ _ => stops_cons rfl _

/-- What is in the grammar is cut into tokens that are read as it should be. -/
theorem Denotes.reads {symbol : Symbol} {cs : List Char} {j : Json} (h : Denotes symbol cs j) :
    ∃ ts, Lexes cs ts ∧ Reads symbol ts j := by
  induction h with
  | null => exact ⟨[.null], .plain (by decide) (List.all_eq_true.mp rfl) rfl, fun _ => rfl⟩
  | yes => exact ⟨[.bool true], .plain (by decide) (List.all_eq_true.mp rfl) rfl, fun _ => rfl⟩
  | no => exact ⟨[.bool false], .plain (by decide) (List.all_eq_true.mp rfl) rfl, fun _ => rfl⟩
  | number h =>
    refine ⟨[.number _], .plain ?_ h.isPlain h.plain?, fun _ => rfl⟩
    rintro rfl
    cases h.isNumber
  | string h => exact ⟨[.string _], Lexes.nil.quoted h, fun _ => rfl⟩
  | emptyArray h =>
    exact ⟨[.openArray, .closeArray], ((Lexes.nil.punctuation rfl).spaces h).punctuation rfl,
      fun _ => rfl⟩
  | array _ ih =>
    obtain ⟨ts, hlexes, items, rfl, hfills⟩ := ih
    exact ⟨_, (hlexes.closed rfl).punctuation rfl, hfills.yields⟩
  | emptyObject h =>
    exact ⟨[.openObject, .closeObject], ((Lexes.nil.punctuation rfl).spaces h).punctuation rfl,
      fun _ => rfl⟩
  | object _ ih =>
    obtain ⟨ts, hlexes, members, rfl, hcompletes⟩ := ih
    exact ⟨_, (hlexes.closed rfl).punctuation rfl, hcompletes.yields⟩
  | element hbefore _ hafter ih =>
    obtain ⟨ts, hlexes, hyields⟩ := ih
    have hspaced := hlexes.append (Lexes.nil.spaces hafter) fun _ hrest => by
      rw [List.append_nil]
      exact hafter.stops hrest
    rw [List.append_nil, List.append_nil] at hspaced
    exact ⟨ts, hspaced.spaces hbefore, hyields⟩
  | lastItem _ ih =>
    obtain ⟨ts, hlexes, hyields⟩ := ih
    exact ⟨ts, hlexes, _, rfl, Yields.fills hyields⟩
  | item _ _ ih ihrest =>
    obtain ⟨ts, hlexes, hyields⟩ := ih
    obtain ⟨us, hlexes', items, ⟨⟩, hfills⟩ := ihrest
    exact ⟨_, hlexes.separated hlexes', _, rfl, Yields.fills_cons hyields hfills⟩
  | lastMember hkey _ ih =>
    obtain ⟨ts, hlexes, hyields⟩ := ih
    exact ⟨_, hkey.lexes hlexes, _, rfl, Yields.completes hyields⟩
  | member hkey _ _ ih ihrest =>
    obtain ⟨ts, hlexes, hyields⟩ := ih
    obtain ⟨us, hlexes', members, ⟨⟩, hcompletes⟩ := ihrest
    exact ⟨_, hkey.lexes (hlexes.separated hlexes'), _, rfl,
      Yields.completes_cons hyields hcompletes⟩

theorem Denotes.read? {text : String} {j : Json} (h : Denotes .element text.toList j) :
    read? text = some j := by
  obtain ⟨ts, hlexes, hyields⟩ := h.reads
  have hfound : ts.foldlM step (.value, []) = some (.found j, []) := hyields []
  rw [Json.read?, hlexes.tokens?, Option.bind_some, ofTokens?, hfound]

/-- No text denotes two values. -/
theorem Denotes.unique {text : String} {j k : Json} (h : Denotes .element text.toList j)
    (h' : Denotes .element text.toList k) : j = k :=
  Option.some.inj (h.read?.symm.trans h'.read?)

end AccumulatorMachine.Json
