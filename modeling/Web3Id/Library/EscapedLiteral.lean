import Web3Id.Library.StringLiteral

namespace Web3Id.Library.StringLiteral

/-- An escaper replaces some characters by an entity. -/
structure Escaper where
  entity : Char → Option (List Char)

namespace Escaper

variable (escaper : Escaper)

def escape (text : List Char) : List Char :=
  text.flatMap fun c => (escaper.entity c).getD [c]

/-- The character is neither replaced nor special in a literal. -/
def Untouched (c : Char) : Prop :=
  escaper.entity c = none ∧ c ≠ '\\' ∧ c ≠ '\n' ∧ c ≠ '\r'

instance (c : Char) : Decidable (escaper.Untouched c) :=
  inferInstanceAs (Decidable (escaper.entity c = none ∧ c ≠ '\\' ∧ c ≠ '\n' ∧ c ≠ '\r'))

def Clean (text : List Char) : Prop := ∀ c ∈ text, escaper.Untouched c

instance (text : List Char) : Decidable (escaper.Clean text) :=
  List.decidableBAll escaper.Untouched text

/-- An escaper for HTML replaces the ampersand and the single quote, has names of plain characters
for its entities, and knows nothing of the escapes of a literal. -/
structure Html : Prop where
  ampersand : (escaper.entity '&').isSome
  quote : (escaper.entity '\'').isSome
  kept : ∀ c ∈ ['\\', '\n', '\r'], escaper.entity c = none
  ascii : ∀ c, (escaper.entity c).isSome → c.toNat < 128
  named : ∀ c text, escaper.entity c = some text →
    ∃ name, text = '&' :: name ∧ name ≠ [] ∧ escaper.Clean name

end Escaper

section Units

theorem unitsOf_small {code : Nat} (small : code < 0x10000) : unitsOf code = [code] := if_pos small

theorem unitsOf_ne_nil (code : Nat) : unitsOf code ≠ [] := by
  unfold unitsOf
  split <;> simp

/-- A unit below the surrogates is a code point of its own. -/
theorem eq_of_mem_unitsOf {code unit : Nat} (member : unit ∈ unitsOf code) (below : unit < 0xD800) :
    code = unit := by
  unfold unitsOf at member
  split at member
  · exact (List.mem_singleton.mp member).symm
  · simp only [List.mem_cons, List.not_mem_nil, or_false] at member
    omega

/-- A code point is a backslash, or has none in its units. -/
theorem unitsOf_alone (code : Nat) : unitsOf code = [92] ∨ 92 ∉ unitsOf code := by
  by_cases backslash : code = 92
  · exact .inl (by rw [backslash]; rfl)
  · exact .inr fun member => backslash (eq_of_mem_unitsOf member (by decide))

theorem unit_alone (unit : Nat) : [unit] = [92] ∨ 92 ∉ [unit] := by
  by_cases backslash : unit = 92
  · exact .inl (by rw [backslash])
  · exact .inr (by simpa using Ne.symm backslash)

@[simp] theorem encode_nil : encode [] = [] := rfl

@[simp] theorem encode_cons (c : Char) (text : List Char) :
    encode (c :: text) = unitsOf c.toNat ++ encode text := rfl

/-- A character whose unit is below the surrogates is that unit. -/
theorem toNat_of_mem_encode {text : List Char} {unit : Nat} (member : unit ∈ encode text)
    (below : unit < 0xD800) : ∃ c ∈ text, c.toNat = unit := by
  obtain ⟨c, listed, inside⟩ := List.mem_flatMap.mp member
  exact ⟨c, listed, eq_of_mem_unitsOf inside below⟩

end Units

variable {escaper : Escaper}

theorem Escaper.escape_cons (c : Char) (text : List Char) :
    escaper.escape (c :: text) = (escaper.entity c).getD [c] ++ escaper.escape text := rfl

/-- An untouched character is read as itself. -/
theorem Escaper.Untouched.plainStep (html : escaper.Html) {c : Char}
    (untouched : escaper.Untouched c) :
    plainStep c = some (unitsOf c.toNat, .mode .plain) := by
  obtain ⟨kept, backslash, line, carriage⟩ := untouched
  have quote : c ≠ '\'' := by
    intro same
    have replaced := html.quote
    rw [← same, kept] at replaced
    cases replaced
  simp [StringLiteral.plainStep, quote, backslash, line, carriage]

/-- Clean text is read as itself. -/
theorem Escaper.Clean.read (html : escaper.Html) {text : List Char} (clean : escaper.Clean text)
    (rest : List Char) :
    read .plain (text ++ rest) =
      (read .plain rest).map fun result => (encode text ++ result.1, result.2) := by
  induction text with
  | nil => simp
  | cons c text ih =>
      obtain ⟨first, others⟩ := List.forall_mem_cons.mp clean
      simp only [List.cons_append, StringLiteral.read, step, first.plainStep html, ih others,
        Option.map_map]
      congr 1
      funext result
      simp

/-- Clean text is not escaped. -/
theorem Escaper.Clean.escape {text : List Char} (clean : escaper.Clean text) :
    escaper.escape text = text := by
  induction text with
  | nil => rfl
  | cons c text ih =>
      obtain ⟨first, others⟩ := List.forall_mem_cons.mp clean
      rw [escape_cons, first.1, ih others]
      rfl

/-- The units of a clean text are no ampersand and no backslash. -/
theorem Escaper.Clean.units (html : escaper.Html) {text : List Char}
    (clean : escaper.Clean text) : 38 ∉ encode text ∧ 92 ∉ encode text := by
  constructor
  · intro member
    obtain ⟨c, listed, code⟩ := toNat_of_mem_encode member (by decide)
    have same : c = '&' := Char.toNat_inj.mp code
    have replaced := html.ampersand
    rw [← same, (clean c listed).1] at replaced
    cases replaced
  · intro member
    obtain ⟨c, listed, code⟩ := toNat_of_mem_encode member (by decide)
    exact (clean c listed).2.1 (Char.toNat_inj.mp code)

/-- What the reader has taken in but not given out. A finished escape leaves a backslash behind, or
the rest of the escape of a backslash, which has no ampersand. -/
def Owes : Mode → List Nat → Prop
  | .plain, owed => owed ≠ [] ∧ (92 ∈ owed ∨ 38 ∉ owed)
  | .backslash, owed => ∃ older, owed = older ++ [92]
  | _, owed => ∃ older begun, owed = older ++ 92 :: begun ∧ begun ≠ [] ∧ 38 ∉ begun

/-- A value that goes on with what is given, and is what was owed and taken in, still owes. -/
def Pays (owed taken given : List Nat) (mode : Mode) : Prop :=
  ∀ value rest, given ++ value = owed ++ (taken ++ rest) →
    ∃ left, Owes mode left ∧ value = left ++ rest

theorem Owes.of_mem {owed : List Nat} (listed : 92 ∈ owed) : Owes .plain owed :=
  ⟨List.ne_nil_of_mem listed, .inl listed⟩

theorem Pays.nothing {owed taken : List Nat} {mode : Mode} (owes : Owes mode (owed ++ taken)) :
    Pays owed taken [] mode :=
  fun _ _ same => ⟨_, owes, by simpa using same⟩

/-- Given units without a backslash leave the backslash that is owed. -/
theorem Pays.without {owed given : List Nat} (listed : 92 ∈ owed) (without : 92 ∉ given)
    (taken : List Nat) : Pays owed taken given .plain := by
  intro value rest same
  rcases List.append_eq_append_iff.mp same with ⟨left, one, other⟩ | ⟨left, one, other⟩
  · refine ⟨left ++ taken, .of_mem ?_, by simpa using other⟩
    rw [one] at listed
    exact List.mem_append_left _ ((List.mem_append.mp listed).resolve_left without)
  · rw [one] at without
    exact absurd (List.mem_append_left _ listed) without

/-- An escape that ends gives a backslash alone, or no backslash. -/
theorem Pays.finish {older begun given : List Nat} (ended : begun ≠ []) (without : 38 ∉ begun)
    (alone : given = [92] ∨ 92 ∉ given) : Pays (older ++ 92 :: begun) [] given .plain := by
  rcases alone with rfl | alone
  · intro value rest same
    cases older with
    | nil => exact ⟨begun, ⟨ended, .inr without⟩, by simpa using same⟩
    | cons unit older =>
        simp only [List.cons_append, List.nil_append, List.cons.injEq] at same
        exact ⟨older ++ 92 :: begun, .of_mem (by simp), by simpa using same.2⟩
  · exact .without (by simp) alone []

/-- The same units at the end of one side and at the start of the other turn the rest around. -/
theorem turned {owed taken value rest : List Nat} (nonempty : owed ≠ [])
    (same : taken ++ value = owed ++ (taken ++ rest)) :
    ∃ left, left ≠ [] ∧ (∀ unit, unit ∈ left ↔ unit ∈ owed) ∧ value = left ++ rest := by
  rw [← List.append_assoc] at same
  obtain ⟨left, one, other⟩ : ∃ left, owed ++ taken = taken ++ left ∧ value = left ++ rest := by
    rcases List.append_eq_append_iff.mp same with ⟨left, one, other⟩ | ⟨left, one, other⟩
    · exact ⟨left, one, other⟩
    · have size := congrArg List.length one
      simp only [List.length_append] at size
      exact absurd (List.eq_nil_of_length_eq_zero (by omega)) nonempty
  have count (unit : Nat) : left.count unit = owed.count unit := by
    have counted := congrArg (List.count unit) one
    simp only [List.count_append] at counted
    omega
  have member (unit : Nat) : unit ∈ left ↔ unit ∈ owed := by
    rw [← List.count_pos_iff, count, List.count_pos_iff]
  obtain ⟨unit, listed⟩ := List.exists_mem_of_ne_nil owed nonempty
  exact ⟨left, List.ne_nil_of_mem ((member unit).mpr listed), member, other⟩

/-- A plain character is given while the same amount stays owed. -/
theorem Pays.behind {owed taken : List Nat} (owes : Owes .plain owed) :
    Pays owed taken taken .plain := by
  intro value rest same
  obtain ⟨left, nonempty, member, equal⟩ := turned owes.1 same
  refine ⟨left, ⟨nonempty, ?_⟩, equal⟩
  rw [member, member]
  exact owes.2

section Reading

variable (html : escaper.Html) {c : Char} (kept : escaper.entity c = none)

include html kept

/-- The ampersand and the quote do not stay. -/
theorem Escaper.Html.ne_of_kept : c ≠ '&' ∧ c ≠ '\'' := by
  constructor
  · rintro rfl
    simpa [kept] using html.ampersand
  · rintro rfl
    simpa [kept] using html.quote

theorem Escaper.Html.not_mem_unitsOf : 38 ∉ unitsOf c.toNat := fun member =>
  (html.ne_of_kept kept).1 (Char.toNat_inj.mp (eq_of_mem_unitsOf member (by decide)))

/-- A plain character keeps what is owed. -/
theorem Owes.plainStep {owed out : List Nat} {next : Next} (owes : Owes .plain owed)
    (taken : plainStep c = some (out, next)) :
    ∃ mode, next = .mode mode ∧ Pays owed (unitsOf c.toNat) out mode := by
  have quote := (html.ne_of_kept kept).2
  unfold StringLiteral.plainStep at taken
  rw [if_neg quote] at taken
  split_ifs at taken with backslash line
  · cases taken
    subst backslash
    exact ⟨_, rfl, .nothing ⟨owed, rfl⟩⟩
  · cases taken
    exact ⟨_, rfl, .behind owes⟩

/-- The escape of a backslash gives it alone, and no other escape of one character gives it. -/
theorem Owes.backslashStep {owed : List Nat} (owes : Owes .backslash owed) :
    ∃ mode, (backslashStep c).2 = .mode mode ∧
      Pays owed (unitsOf c.toNat) (backslashStep c).1 mode := by
  obtain ⟨older, rfl⟩ := owes
  have begun := unitsOf_ne_nil c.toNat
  have without := html.not_mem_unitsOf kept
  have whole : older ++ [92] ++ unitsOf c.toNat = older ++ 92 :: unitsOf c.toNat := by simp
  have all : ∃ older' begun', older ++ [92] ++ unitsOf c.toNat = older' ++ 92 :: begun' ∧
      begun' ≠ [] ∧ 38 ∉ begun' := ⟨older, _, whole, begun, without⟩
  unfold StringLiteral.backslashStep
  split_ifs
  · exact ⟨_, rfl, .nothing all⟩
  · exact ⟨_, rfl, .nothing all⟩
  · exact ⟨_, rfl, .nothing all⟩
  · exact ⟨_, rfl, .nothing all⟩
  · exact ⟨_, rfl, .nothing (.of_mem (by simp))⟩
  · exact ⟨_, rfl, .nothing all⟩
  · refine ⟨_, rfl, fun value rest same => ?_⟩
    have alone : escaped c = [92] ∨ 92 ∉ escaped c := by
      unfold escaped
      split <;> try exact .inr (by decide)
      exact unitsOf_alone c.toNat
    exact Pays.finish begun without alone value rest (by simpa using same)

/-- An escape that goes on takes the character in. -/
theorem Owes.goes_on {older begun : List Nat} (ampersand : 38 ∉ begun) :
    ∃ older' begun', older ++ 92 :: begun ++ unitsOf c.toNat = older' ++ 92 :: begun' ∧
      begun' ≠ [] ∧ 38 ∉ begun' :=
  ⟨older, begun ++ unitsOf c.toNat, by simp, by simp [unitsOf_ne_nil],
    by simp [ampersand, html.not_mem_unitsOf kept]⟩

/-- An escape that ends has taken the character in. -/
theorem Pays.ends {older begun given : List Nat} (ampersand : 38 ∉ begun)
    (alone : given = [92] ∨ 92 ∉ given) :
    Pays (older ++ 92 :: begun) (unitsOf c.toNat) given .plain := by
  have taken : 38 ∉ begun ++ unitsOf c.toNat := by
    simp [ampersand, html.not_mem_unitsOf kept]
  intro value rest same
  exact Pays.finish (by simp [unitsOf_ne_nil]) taken alone value rest (by simpa using same)

/-- A character that stays in the text pays its part of what is owed. -/
theorem Owes.step {mode : Mode} {owed out : List Nat} {next : Next} (owes : Owes mode owed)
    (taken : step mode c = some (out, next)) :
    ∃ mode, next = .mode mode ∧ Pays owed (unitsOf c.toNat) out mode := by
  cases mode with
  | plain => exact owes.plainStep html kept taken
  | backslash =>
      have equal := owes.backslashStep html kept
      rw [Option.some.inj taken] at equal
      exact equal
  | hex missing value =>
      obtain ⟨older, begun, rfl, ended, ampersand⟩ := owes
      obtain ⟨digit, -, found⟩ := Option.bind_eq_some_iff.mp taken
      dsimp only at found
      split at found
      · cases found
        exact ⟨_, rfl, .ends html kept ampersand (unit_alone _)⟩
      · cases found
        exact ⟨_, rfl, .nothing (goes_on html kept ampersand)⟩
  | unicode =>
      obtain ⟨older, begun, rfl, ended, ampersand⟩ := owes
      simp only [StringLiteral.step] at taken
      split at taken
      · cases taken
        exact ⟨_, rfl, .nothing (goes_on html kept ampersand)⟩
      · obtain ⟨digit, -, found⟩ := Option.map_eq_some_iff.mp taken
        cases found
        exact ⟨_, rfl, .nothing (goes_on html kept ampersand)⟩
  | braces started value =>
      obtain ⟨older, begun, rfl, ended, ampersand⟩ := owes
      simp only [StringLiteral.step] at taken
      split_ifs at taken with brace finished
      · cases taken
        exact ⟨_, rfl, .ends html kept ampersand (unitsOf_alone value)⟩
      · obtain ⟨digit, -, found⟩ := Option.bind_eq_some_iff.mp taken
        split_ifs at found
        cases found
        exact ⟨_, rfl, .nothing (goes_on html kept ampersand)⟩
  | octal further value =>
      obtain ⟨older, begun, rfl, ended, ampersand⟩ := owes
      simp only [StringLiteral.step] at taken
      split_ifs at taken with digit
      · cases taken
        exact ⟨_, rfl, .nothing (goes_on html kept ampersand)⟩
      · obtain ⟨⟨units, after⟩, plain, found⟩ := Option.map_eq_some_iff.mp taken
        cases found
        obtain ⟨mode, rfl, -⟩ :=
          Owes.plainStep html kept (.of_mem (List.mem_singleton.mpr rfl)) plain
        refine ⟨mode, rfl, fun more rest same => ?_⟩
        obtain ⟨left, owes, equal⟩ := Pays.finish ended ampersand (unit_alone value)
          (units ++ more) (unitsOf c.toNat ++ rest) (by simpa using same)
        obtain ⟨_, goes, pays⟩ := owes.plainStep html kept plain
        cases goes
        exact pays more rest equal
  | carriage =>
      obtain ⟨older, begun, rfl, ended, ampersand⟩ := owes
      simp only [StringLiteral.step] at taken
      split_ifs at taken with line
      · cases taken
        exact ⟨_, rfl, .nothing (.of_mem (by simp))⟩
      · exact Owes.plainStep html kept (.of_mem (by simp)) taken

end Reading

/-- An ampersand that is given shows that a backslash is owed. -/
theorem Pays.ampersand {owed given : List Nat} (owes : Owes .plain owed) (without : 92 ∉ given)
    (taken : List Nat) : Pays owed taken (38 :: given) .plain := by
  rcases owes.2 with listed | missing
  · exact .without listed (by simpa using without) taken
  · intro value rest same
    cases owed with
    | nil => exact absurd rfl owes.1
    | cons unit owed =>
        have head : 38 = unit := (List.cons.inj same).1
        exact absurd (head ▸ List.mem_cons_self) missing

/-- The ampersand of an entity leaves a backslash owed. -/
theorem Owes.ampersand {mode : Mode} {owed out given : List Nat} {next : Next}
    (owes : Owes mode owed) (taken : StringLiteral.step mode '&' = some (out, next))
    (without : 92 ∉ given) (units : List Nat) :
    next = .mode .plain ∧ Pays owed units (out ++ given) .plain := by
  cases mode with
  | plain =>
      cases taken
      exact ⟨rfl, .ampersand owes without units⟩
  | backslash =>
      obtain ⟨older, rfl⟩ := owes
      cases taken
      exact ⟨rfl, .ampersand (.of_mem (by simp)) without units⟩
  | hex missing value => cases taken
  | unicode => cases taken
  | braces started value => cases taken
  | octal further value =>
      obtain ⟨older, begun, rfl, ended, missing⟩ := owes
      have digit : ¬(0 < further ∧ isOctal '&') := by simp [show isOctal '&' = false from rfl]
      simp only [StringLiteral.step, if_neg digit] at taken
      cases taken
      refine ⟨rfl, fun more rest same => ?_⟩
      obtain ⟨left, owes, equal⟩ := Pays.finish ended missing (unit_alone value)
        (38 :: given ++ more) (units ++ rest) (by simpa [unitsOf] using same)
      exact Pays.ampersand owes without units more rest equal
  | carriage =>
      obtain ⟨older, begun, rfl, -, -⟩ := owes
      cases taken
      exact ⟨rfl, .ampersand (.of_mem (by simp)) without units⟩

/-- Only a quote closes the literal. -/
theorem Owes.closing {mode : Mode} {owed value : List Nat} {rest tail : List Char}
    (broken : read .plain rest = none) (owes : Owes mode owed)
    (found : read mode ('\'' :: rest) = some (value, tail)) : value ≠ owed := by
  cases mode with
  | plain =>
      cases found
      exact fun same => owes.1 same.symm
  | backslash =>
      have ended : (read .plain rest).map (fun result => ([39] ++ result.1, result.2)) =
          some (value, tail) := found
      rw [broken] at ended
      cases ended
  | hex missing value => cases found
  | unicode => cases found
  | braces started value => cases found
  | octal further value =>
      obtain ⟨older, begun, rfl, ended, -⟩ := owes
      have digit : ¬(0 < further ∧ isOctal '\'') := by simp [show isOctal '\'' = false from rfl]
      simp only [read, StringLiteral.step, if_neg digit] at found
      cases found
      intro same
      have size := congrArg List.length same
      have positive := List.length_pos_iff.mpr ended
      simp only [List.length_append, List.length_cons, List.length_nil] at size
      omega
  | carriage =>
      obtain ⟨older, begun, rfl, -, -⟩ := owes
      cases found
      simp

/-- A reader that owes something never gives the rest of the text. -/
theorem Owes.unpaid (html : escaper.Html) {mode : Mode} {owed value : List Nat}
    {text rest tail : List Char} (broken : read .plain rest = none) (owes : Owes mode owed)
    (found : read mode (escaper.escape text ++ '\'' :: rest) = some (value, tail)) :
    value ≠ owed ++ encode text := by
  induction text generalizing mode owed value with
  | nil =>
      rw [encode_nil, List.append_nil]
      exact owes.closing broken found
  | cons c text ih =>
      rw [Escaper.escape_cons, List.append_assoc] at found
      rw [encode_cons]
      intro same
      cases replaced : escaper.entity c with
      | none =>
          simp only [replaced, Option.getD_none, List.cons_append, List.nil_append, read] at found
          cases taken : StringLiteral.step mode c with
          | none => simp [taken] at found
          | some result =>
              obtain ⟨out, next⟩ := result
              obtain ⟨mode', rfl, pays⟩ := owes.step html replaced taken
              simp only [taken] at found
              obtain ⟨⟨more, tail'⟩, goes, equal⟩ := Option.map_eq_some_iff.mp found
              cases equal
              obtain ⟨left, owes, equal⟩ := pays more (encode text) same
              exact ih owes goes equal
      | some entity =>
          obtain ⟨name, rfl, -, clean⟩ := html.named c entity replaced
          simp only [replaced, Option.getD_some, List.cons_append, read] at found
          cases taken : StringLiteral.step mode '&' with
          | none => simp [taken] at found
          | some result =>
              obtain ⟨out, next⟩ := result
              obtain ⟨rfl, pays⟩ := owes.ampersand taken (clean.units html).2 (unitsOf c.toNat)
              simp only [taken, clean.read html, Option.map_map] at found
              obtain ⟨⟨more, tail'⟩, goes, equal⟩ := Option.map_eq_some_iff.mp found
              cases equal
              obtain ⟨left, owes, equal⟩ := pays more (encode text) (by simpa using same)
              exact ih owes goes equal

section Exact

variable (html : escaper.Html)

include html

theorem Escaper.Html.special {c : Char} (touched : ¬escaper.Untouched c) : c.toNat < 128 := by
  cases replaced : escaper.entity c with
  | some entity => exact html.ascii c (by rw [replaced]; rfl)
  | none =>
      by_contra large
      refine touched ⟨replaced, ?_, ?_, ?_⟩ <;> rintro rfl <;> exact large (by decide)

/-- A clean text has no unit of a special character. -/
theorem Escaper.Clean.without {text : List Char} (clean : escaper.Clean text) {c : Char}
    (touched : ¬escaper.Untouched c) : c.toNat ∉ encode text := by
  intro member
  have small := html.special touched
  obtain ⟨other, listed, code⟩ := toNat_of_mem_encode member (by omega)
  exact touched (Char.toNat_inj.mp code ▸ clean other listed)

/-- Units of plain characters that are given too early stay too early. -/
theorem Escaper.Html.ahead {lead value : List Nat} {text rest tail : List Char}
    (nonempty : lead ≠ []) (without : ∀ c, ¬escaper.Untouched c → c.toNat ∉ lead)
    (found : read .plain (escaper.escape text ++ '\'' :: rest) = some (value, tail)) :
    lead ++ value ≠ encode text := by
  induction text generalizing lead value with
  | nil => simp [nonempty]
  | cons c text ih =>
      intro same
      rw [encode_cons] at same
      by_cases untouched : escaper.Untouched c
      · simp only [Escaper.escape_cons, untouched.1, Option.getD_none, List.cons_append,
          List.nil_append, read, StringLiteral.step, untouched.plainStep html] at found
        obtain ⟨⟨more, tail'⟩, goes, equal⟩ := Option.map_eq_some_iff.mp found
        cases equal
        obtain ⟨lead', nonempty, member, equal⟩ := turned nonempty same.symm
        exact ih nonempty (fun c touched listed => without c touched ((member _).mp listed)) goes
          equal.symm
      · have small := html.special untouched
        rw [unitsOf_small (by omega)] at same
        cases lead with
        | nil => exact nonempty rfl
        | cons unit lead =>
            have head : unit = c.toNat := (List.cons.inj same).1
            exact without c untouched (head ▸ List.mem_cons_self)

/-- Only a clean text is read as itself after it was escaped. -/
theorem Escaper.Html.clean_of_read {text rest tail : List Char} (broken : read .plain rest = none)
    (found : read .plain (escaper.escape text ++ '\'' :: rest) = some (encode text, tail)) :
    escaper.Clean text := by
  induction text with
  | nil => exact fun _ listed => absurd listed List.not_mem_nil
  | cons c text ih =>
      rw [Escaper.escape_cons, List.append_assoc, encode_cons] at found
      cases replaced : escaper.entity c with
      | none =>
          simp only [replaced, Option.getD_none, List.cons_append, List.nil_append, read,
            StringLiteral.step] at found
          by_cases backslash : c = '\\'
          · subst backslash
            obtain ⟨⟨more, tail'⟩, goes, equal⟩ := Option.map_eq_some_iff.mp found
            have owes : Owes .backslash [92] := ⟨[], rfl⟩
            exact absurd (Prod.mk.inj equal).1 (owes.unpaid html broken goes)
          · by_cases line : c = '\n' ∨ c = '\r'
            · have quote := (html.ne_of_kept replaced).2
              simp [StringLiteral.plainStep, quote, backslash, line] at found
            · have untouched : escaper.Untouched c :=
                ⟨replaced, backslash, fun same => line (.inl same), fun same => line (.inr same)⟩
              simp only [untouched.plainStep html] at found
              obtain ⟨⟨more, tail'⟩, goes, equal⟩ := Option.map_eq_some_iff.mp found
              have value : more = encode text := List.append_cancel_left (Prod.mk.inj equal).1
              have after : tail' = tail := (Prod.mk.inj equal).2
              rw [value, after] at goes
              exact List.forall_mem_cons.mpr ⟨untouched, ih goes⟩
      | some entity =>
          obtain ⟨name, rfl, nonempty, clean⟩ := html.named c entity replaced
          have small := html.ascii c (by rw [replaced]; rfl)
          have plain : read .plain ('&' :: (name ++ (escaper.escape text ++ '\'' :: rest))) =
              (read .plain (escaper.escape text ++ '\'' :: rest)).map fun result =>
                (38 :: (encode name ++ result.1), result.2) := by
            simp [read, StringLiteral.step, StringLiteral.plainStep, clean.read html, unitsOf,
              Function.comp_def]
          simp only [replaced, Option.getD_some, List.cons_append, plain] at found
          obtain ⟨⟨more, tail'⟩, goes, equal⟩ := Option.map_eq_some_iff.mp found
          rw [unitsOf_small (by omega)] at equal
          have ahead := (List.cons.inj (Prod.mk.inj equal).1).2
          exact absurd ahead (html.ahead (by cases name <;> simp_all [unitsOf_ne_nil])
            (fun _ => clean.without html) goes)

/-- The text has no quote after it was escaped. -/
theorem Escaper.Html.quote_not_mem (text : List Char) : '\'' ∉ escaper.escape text := by
  intro listed
  obtain ⟨c, -, inside⟩ := List.mem_flatMap.mp listed
  cases replaced : escaper.entity c with
  | none =>
      rw [replaced, Option.getD_none, List.mem_singleton] at inside
      exact (html.ne_of_kept replaced).2 inside.symm
  | some entity =>
      obtain ⟨name, rfl, -, clean⟩ := html.named c entity replaced
      rw [replaced, Option.getD_some] at inside
      rcases List.mem_cons.mp inside with equal | inside
      · cases equal
      · exact (html.ne_of_kept (clean _ inside).1).2 rfl

end Exact

/-- Only a quote closes a literal. -/
theorem plainStep_goes_on {c : Char} {out : List Nat} {next : Next} (quote : c ≠ '\'')
    (taken : plainStep c = some (out, next)) : ∃ mode, next = .mode mode := by
  unfold plainStep at taken
  rw [if_neg quote] at taken
  split_ifs at taken <;> cases taken <;> exact ⟨_, rfl⟩

theorem step_goes_on {mode : Mode} {c : Char} {out : List Nat} {next : Next} (quote : c ≠ '\'')
    (taken : step mode c = some (out, next)) : ∃ mode, next = .mode mode := by
  cases mode with
  | plain => exact plainStep_goes_on quote taken
  | backslash =>
      simp only [step, Option.some.injEq] at taken
      unfold backslashStep at taken
      split_ifs at taken <;> cases taken <;> exact ⟨_, rfl⟩
  | hex missing value =>
      obtain ⟨digit, -, found⟩ := Option.bind_eq_some_iff.mp taken
      dsimp only at found
      split at found <;> cases found <;> exact ⟨_, rfl⟩
  | unicode =>
      simp only [step] at taken
      split_ifs at taken
      · cases taken
        exact ⟨_, rfl⟩
      · obtain ⟨digit, -, found⟩ := Option.map_eq_some_iff.mp taken
        cases found
        exact ⟨_, rfl⟩
  | braces started value =>
      simp only [step] at taken
      split_ifs at taken
      · cases taken
        exact ⟨_, rfl⟩
      · obtain ⟨digit, -, found⟩ := Option.bind_eq_some_iff.mp taken
        split_ifs at found
        cases found
        exact ⟨_, rfl⟩
  | octal further value =>
      simp only [step] at taken
      split_ifs at taken
      · cases taken
        exact ⟨_, rfl⟩
      · obtain ⟨⟨units, after⟩, plain, found⟩ := Option.map_eq_some_iff.mp taken
        cases found
        exact plainStep_goes_on quote plain
  | carriage =>
      simp only [step] at taken
      split_ifs at taken
      · cases taken
        exact ⟨_, rfl⟩
      · exact plainStep_goes_on quote taken

/-- A literal without a quote inside ends at the next quote, when the script breaks after it. -/
theorem read_quote {mode : Mode} {text rest : List Char} (quote : '\'' ∉ text)
    (broken : read .plain rest = none) :
    read mode (text ++ '\'' :: rest) =
      (read mode (text ++ ['\''])).map fun result => (result.1, rest) := by
  induction text generalizing mode with
  | nil =>
      cases mode with
      | octal further value =>
          have digit : ¬(0 < further ∧ isOctal '\'') := by
            simp [show isOctal '\'' = false from rfl]
          simp [read, step, digit, plainStep]
      | backslash =>
          have past : read .backslash ('\'' :: rest) =
              (read .plain rest).map fun result => ([39] ++ result.1, result.2) := rfl
          rw [List.nil_append, past, broken]
          rfl
      | _ => rfl
  | cons c text ih =>
      have first : c ≠ '\'' := fun same => quote (same ▸ List.mem_cons_self)
      have others : '\'' ∉ text := fun listed => quote (List.mem_cons_of_mem c listed)
      simp only [List.cons_append, read]
      cases taken : step mode c with
      | none => rfl
      | some result =>
          obtain ⟨out, next⟩ := result
          obtain ⟨next, rfl⟩ := step_goes_on first taken
          simp [ih others, Option.map_map, Function.comp_def]

end Web3Id.Library.StringLiteral
