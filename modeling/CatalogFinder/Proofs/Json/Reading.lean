import CatalogFinder.Json.Parser
import CatalogFinder.Json.Printer
import CatalogFinder.Proofs.Text.Digits
import Mathlib.Data.Option.Basic

/-!
# JSON is read as it is written

The compact text of a value is read back as the value, if the value has only numbers of which nothing is lost:
integers that fit into 64 bits. So the text tells any two such values apart.

* `Json.exact` : no other numbers are in the value;
* `Json.readString_escaped`, `Json.readNumber_intDigits` : the two scanners stop where the writer has stopped;
* `Json.readValue_compactChars` : a value is read back, and what closes it is left over;
* `Json.parse?_compact`, `Json.compact_injective` : the same for whole texts.
-/

namespace CatalogFinder.Json

open Text (hexDigit digitValue? decimalDigits intDigits isDigit natOfDigits)

mutual

/-- All numbers in the value are integers that fit into 64 bits, with or without a sign. -/
def exact : Json → Bool
  | integer i => -0x8000000000000000 ≤ i && i < UInt64.size
  | real _ => false
  | illFormed => false
  | array items => exactItems items
  | object members => exactMembers members
  | _ => true

/-- Every item is exact. -/
def exactItems : List Json → Bool
  | [] => true
  | j :: rest => exact j && exactItems rest

/-- Every member is exact. -/
def exactMembers : List (String × Json) → Bool
  | [] => true
  | (_, j) :: rest => exact j && exactMembers rest

end

/-! ## Strings -/

theorem digitValue?_hexDigit {n : Nat} (h : n < 16) : digitValue? 16 (hexDigit n) = some n := by
  have hall : ∀ n < 16, digitValue? 16 (hexDigit n) = some n := by decide
  exact hall n h

/-- A code unit below the surrogates stands for a character, whatever follows it. -/
theorem joinParts_unit {n : Nat} (h : n < 0xD800) (parts : List StringPart) :
    joinParts (.unit n :: parts) = (joinParts parts).map (Char.ofNat n :: ·) := by
  have hhigh : ¬ 0xD800 ≤ n := by omega
  have hlow : ¬ 0xDC00 ≤ n := by omega
  match parts with
  | [] => simp [joinParts, hhigh]
  | .char c :: rest => simp [joinParts, hhigh]
  | .unit low :: rest => simp [joinParts, hhigh, hlow]

/-- What is written for a character is read as one part that stands for it. -/
theorem stringParts_escaped (c : Char) (rest : List Char) :
    ∃ part, stringParts (escaped c ++ rest) = (stringParts rest).map (fun r => (part :: r.1, r.2)) ∧
      ∀ parts, joinParts (part :: parts) = (joinParts parts).map (c :: ·) := by
  have hchar : ∀ parts, joinParts (.char c :: parts) = (joinParts parts).map (c :: ·) := fun parts => by
    rw [joinParts]
  unfold escaped
  split
  case h_8 =>
    -- no character with an escape of its own: it is written by its code or as it is
    rename_i hquote hback _ _ _ _ _
    split
    case isTrue hcontrol =>
      refine ⟨.unit c.toNat, ?_, ?_⟩
      · have hdigits : ['0', '0', hexDigit (c.toNat / 16), hexDigit (c.toNat % 16)].mapM (digitValue? 16) =
            some [0, 0, c.toNat / 16, c.toNat % 16] := by
          have h0 : digitValue? 16 '0' = some 0 := by decide
          simp [h0, digitValue?_hexDigit (show c.toNat / 16 < 16 by omega),
            digitValue?_hexDigit (Nat.mod_lt c.toNat (by decide : 0 < 16))]
        have hvalue : natOfDigits 16 [0, 0, c.toNat / 16, c.toNat % 16] = c.toNat := by
          simp only [natOfDigits, List.foldl_cons, List.foldl_nil]
          omega
        simp only [List.cons_append, List.nil_append]
        rw [stringParts, hdigits]
        cases stringParts rest with
        | none => rfl
        | some r => simp [hvalue]
      · intro parts
        rw [joinParts_unit (by omega), Char.ofNat_toNat]
    case isFalse hcontrol =>
      refine ⟨.char c, ?_, hchar⟩
      have hguard : (guard (0x20 ≤ c.toNat) : Option Unit) = some () := if_pos (by omega)
      simp only [List.cons_append, List.nil_append]
      rw [stringParts]
      · rw [hguard]
        cases stringParts rest <;> rfl
      all_goals simp_all
  all_goals
    refine ⟨.char _, ?_, hchar⟩
    simp only [List.cons_append, List.nil_append]
    rw [stringParts] <;> cases stringParts rest <;> simp [List.lookup_cons]

theorem stringParts_flatMap (cs rest : List Char) :
    ∃ parts, stringParts (cs.flatMap escaped ++ '"' :: rest) = some (parts, rest) ∧ joinParts parts = some cs := by
  induction cs with
  | nil => exact ⟨[], by simp [stringParts], rfl⟩
  | cons c cs ih =>
    obtain ⟨parts, hparts, hjoined⟩ := ih
    obtain ⟨part, hpart, hcons⟩ := stringParts_escaped c (cs.flatMap escaped ++ '"' :: rest)
    refine ⟨part :: parts, ?_, ?_⟩
    · rw [List.flatMap_cons, List.append_assoc, hpart, hparts]
      rfl
    · rw [hcons, hjoined]
      rfl

/-- A written string is read up to its closing quote. -/
theorem readString_escaped (s : String) (rest : List Char) :
    readString (s.toList.flatMap escaped ++ '"' :: rest) = some (some s, rest) := by
  obtain ⟨parts, hparts, hjoined⟩ := stringParts_flatMap s.toList rest
  rw [readString, hparts]
  simp [hjoined]

/-! ## Numbers -/

/-- What follows a value inside an array or object, or at the end of a text. -/
def Closes (rest : List Char) : Prop := ∀ c cs, rest = c :: cs → c = ',' ∨ c = ']' ∨ c = '}'

theorem Closes.nil : Closes [] := by
  intro c cs h
  cases h

theorem Closes.comma (cs : List Char) : Closes (',' :: cs) := by
  intro c cs h
  cases h
  exact .inl rfl

theorem Closes.bracket (cs : List Char) : Closes (']' :: cs) := by
  intro c cs h
  cases h
  exact .inr (.inl rfl)

theorem Closes.brace (cs : List Char) : Closes ('}' :: cs) := by
  intro c cs h
  cases h
  exact .inr (.inr rfl)

theorem readDigits_decimalDigits (n : Nat) {rest : List Char} (h : Closes rest) :
    readDigits (decimalDigits n ++ rest) = some (decimalDigits n, rest) := by
  have hdigits : ∀ c ∈ decimalDigits n, isDigit c = true := fun _ => Text.isDigit_of_mem_decimalDigits
  have hend : rest.takeWhile isDigit = [] ∧ rest.dropWhile isDigit = rest := by
    cases rest with
    | nil => exact ⟨rfl, rfl⟩
    | cons c cs =>
      have hc : isDigit c = false := by
        rcases h c cs rfl with rfl | rfl | rfl <;> decide
      simp [hc]
  have htake : (decimalDigits n ++ rest).takeWhile isDigit = decimalDigits n := by
    rw [List.takeWhile_append_of_pos hdigits, hend.1, List.append_nil]
  have hdrop : (decimalDigits n ++ rest).dropWhile isDigit = rest := by
    rw [List.dropWhile_append_of_pos hdigits, hend.2]
  rw [readDigits, htake, hdrop]
  cases hn : decimalDigits n with
  | nil => exact absurd hn (Text.decimalDigits_ne_nil n)
  | cons c cs => rfl

theorem readWhole_decimalDigits (n : Nat) {rest : List Char} (h : Closes rest) :
    readWhole (decimalDigits n ++ rest) = some (decimalDigits n, rest) := by
  by_cases hzero : n = 0
  · subst hzero
    rfl
  · have hhead := Text.decimalDigits_head hzero
    rw [readWhole]
    · exact readDigits_decimalDigits n h
    · intro cs hcs
      cases hn : decimalDigits n with
      | nil => exact Text.decimalDigits_ne_nil n hn
      | cons c digits =>
        rw [hn] at hhead hcs
        simp only [List.cons_append, List.cons.injEq] at hcs
        exact hhead (by rw [hcs.1, List.head?_cons])

/-- Behind a number there is neither a fraction nor an exponent. -/
theorem Closes.readFraction {rest : List Char} (h : Closes rest) : readFraction rest = some (none, rest) := by
  unfold Json.readFraction
  split
  next cs =>
    rcases h '.' cs rfl with h | h | h <;> cases h
  next => rfl

theorem Closes.readExponent {rest : List Char} (h : Closes rest) : readExponent rest = some (none, rest) := by
  unfold Json.readExponent
  split
  next c cs =>
    have hc : ¬ (c = 'e' || c = 'E') = true := by
      rcases h c cs rfl with rfl | rfl | rfl <;> decide
    rw [if_neg hc]
  next => rfl

theorem filterMap_of_mapM {α β : Type} {f : α → Option β} {xs : List α} {ys : List β} (h : xs.mapM f = some ys) :
    xs.filterMap f = ys := by
  induction xs generalizing ys with
  | nil => simpa using h
  | cons x xs ih =>
    rw [List.mapM_cons] at h
    cases hx : f x with
    | none => simp [hx] at h
    | some y =>
      cases hxs : xs.mapM f with
      | none => simp [hx, hxs] at h
      | some zs =>
        have hys : y :: zs = ys := by simpa [hx, hxs] using h
        rw [List.filterMap_cons_some hx, ih hxs, hys]

/-- A number that is written in decimal digits is taken for an integer if it fits into 64 bits. -/
theorem ofNumeral_whole {i : Int} {digits : List Nat} (hdigits : natOfDigits 10 digits = i.natAbs)
    (hlow : -0x8000000000000000 ≤ i) (hhigh : i < UInt64.size) :
    ofNumeral ⟨decide (i < 0), digits, none, none⟩ = integer i := by
  have hinteger : (⟨decide (i < 0), digits, none, none⟩ : Numeral).integer? = some i := by
    unfold Numeral.integer?
    simp only [hdigits, Option.isSome_none, Bool.or_self, Bool.false_or]
    by_cases h : i < 0
    · have hzero : (i.natAbs == 0) = false := beq_eq_false_iff_ne.2 (by omega)
      have hi : -(i.natAbs : Int) = i := by omega
      rw [decide_eq_true h, hzero, Bool.and_false, if_neg Bool.false_ne_true, if_pos rfl, hi]
    · have hi : (i.natAbs : Int) = i := by omega
      rw [decide_eq_false h, Bool.false_and, if_neg Bool.false_ne_true, if_neg Bool.false_ne_true, hi]
  have hfits : (decide (-0x8000000000000000 ≤ i) && decide (i < UInt64.size)) = true := by
    rw [Bool.and_eq_true]
    exact ⟨decide_eq_true hlow, decide_eq_true hhigh⟩
  rw [ofNumeral, hinteger]
  simp only [hfits, if_true]

/-- A written integer is read, and nothing behind it. -/
theorem readNumber_intDigits {i : Int} (hlow : -0x8000000000000000 ≤ i) (hhigh : i < UInt64.size) {rest : List Char}
    (h : Closes rest) : readNumber (intDigits i ++ rest) = some (integer i, rest) := by
  obtain ⟨values, hvalues, hnumber⟩ := Text.mapM_decimalDigits i.natAbs
  have hread : readNumber (intDigits i ++ rest) =
      some (ofNumeral ⟨decide (i < 0), (decimalDigits i.natAbs).filterMap (digitValue? 10), none, none⟩, rest) := by
    unfold readNumber intDigits
    by_cases hneg : i < 0
    · simp [hneg, readWhole_decimalDigits _ h, h.readFraction, h.readExponent]
    · have hsign : ∀ cs, decimalDigits i.natAbs ++ rest = '-' :: cs → False := by
        intro cs hcs
        have hminus : '-' ∈ decimalDigits i.natAbs := by
          cases hn : decimalDigits i.natAbs with
          | nil => exact absurd hn (Text.decimalDigits_ne_nil _)
          | cons c digits =>
            rw [hn, List.cons_append, List.cons.injEq] at hcs
            simp [hcs.1]
        exact absurd (Text.isDigit_of_mem_decimalDigits hminus) (by decide)
      rw [if_neg hneg]
      split
      next negative cs hcs =>
        split at hcs
        next more heq => exact absurd heq (hsign more)
        next =>
          cases hcs
          simp [hneg, readWhole_decimalDigits _ h, h.readFraction, h.readExponent]
  rw [hread, filterMap_of_mapM hvalues, ofNumeral_whole hnumber hlow hhigh]

/-! ## Values -/

/-- An integer starts with a minus sign or a digit, which starts nothing else. -/
theorem intDigits_head (i : Int) :
    ∃ c cs, intDigits i = c :: cs ∧ c ∉ ['{', '[', '"', 'n', 't', 'f', ' ', '\t', '\n', '\r', ']'] := by
  unfold intDigits
  by_cases h : i < 0
  · rw [if_pos h]
    exact ⟨'-', decimalDigits i.natAbs, rfl, by decide⟩
  · rw [if_neg h]
    cases hn : decimalDigits i.natAbs with
    | nil => exact absurd hn (Text.decimalDigits_ne_nil _)
    | cons c cs =>
      refine ⟨c, cs, rfl, ?_⟩
      intro hc
      have hdigit : isDigit c = true := Text.isDigit_of_mem_decimalDigits (n := i.natAbs) (hn ▸ List.mem_cons_self)
      have hall : ['{', '[', '"', 'n', 't', 'f', ' ', '\t', '\n', '\r', ']'].all (!isDigit ·) = true := by decide
      have hnot := List.all_eq_true.1 hall c hc
      rw [hdigit] at hnot
      cases hnot

theorem skipGap_cons {c : Char} (h : isGap c = false) (cs : List Char) : skipGap (c :: cs) = c :: cs := by
  rw [skipGap, List.dropWhile_cons_of_neg (by rw [h]; exact Bool.false_ne_true)]

/-- No value starts with a gap or a closing bracket. -/
theorem compactChars_head {j : Json} (h : j.exact = true) :
    ∃ c cs, compactChars j = c :: cs ∧ isGap c = false ∧ c ≠ ']' := by
  match j, h with
  | null, _ => exact ⟨'n', _, rfl, by decide, by decide⟩
  | boolean true, _ => exact ⟨'t', _, rfl, by decide, by decide⟩
  | boolean false, _ => exact ⟨'f', _, rfl, by decide, by decide⟩
  | string s, _ => exact ⟨'"', _, rfl, by decide, by decide⟩
  | array items, _ => exact ⟨'[', _, rfl, by decide, by decide⟩
  | object members, _ => exact ⟨'{', _, rfl, by decide, by decide⟩
  | integer i, _ =>
    obtain ⟨c, cs, hcs, hc⟩ := intDigits_head i
    simp only [List.mem_cons, List.not_mem_nil, or_false, not_or] at hc
    refine ⟨c, cs, hcs, ?_, hc.2.2.2.2.2.2.2.2.2.2⟩
    simp [isGap, hc]

theorem readValue_intDigits (n : Nat) (i : Int) (rest : List Char) :
    readValue (n + 1) (intDigits i ++ rest) = readNumber (intDigits i ++ rest) := by
  obtain ⟨c, cs, hcs, hc⟩ := intDigits_head i
  simp only [List.mem_cons, List.not_mem_nil, or_false, not_or] at hc
  have hgap : isGap c = false := by simp [isGap, hc]
  rw [hcs, List.cons_append, readValue, skipGap_cons hgap]
  split <;> simp_all

theorem readValue_string (n : Nat) (s : String) (rest : List Char) :
    readValue (n + 1) (quoted s ++ rest) = some (string s, rest) := by
  have hquoted : quoted s ++ rest = '"' :: (s.toList.flatMap escaped ++ '"' :: rest) := by
    simp [quoted]
  rw [hquoted, readValue, skipGap_cons (by decide)]
  simp only [readString_escaped, Option.map_some, Option.getD_some]

theorem readValue_items (n : Nat) {c : Char} (hgap : isGap c = false) (hc : c ≠ ']') (cs : List Char) :
    readValue (n + 1) ('[' :: c :: cs) = (readItems n (c :: cs)).map fun r => (array r.1, r.2) := by
  rw [readValue, skipGap_cons (by decide)]
  simp only [skipGap_cons hgap]
  split
  next hclose => exact absurd (List.cons.inj hclose).1 hc
  next => rfl

theorem readValue_members (n : Nat) (cs : List Char) :
    readValue (n + 1) ('{' :: '"' :: cs) = (readMembers n ('"' :: cs)).map fun r => (objectOf r.1, r.2) := by
  have hgap : isGap '"' = false := by decide
  rw [readValue, skipGap_cons (by decide)]
  simp only [skipGap_cons hgap]
  split
  next hclose => exact absurd (List.cons.inj hclose).1 (by decide)
  next => rfl

theorem objectOf_named (members : List (String × Json)) :
    objectOf (members.map fun e => (some e.1, e.2)) = object members := by
  have hmembers : (members.map fun e => (some e.1, e.2)).mapM (fun e => e.1.map (·, e.2)) = some members := by
    induction members with
    | nil => rfl
    | cons e members ih => simp [ih]
  unfold objectOf
  split
  next read hread => rw [Option.some.inj (hread.symm.trans hmembers)]
  next hnone => cases hnone.symm.trans hmembers

mutual

theorem readValue_compactChars (j : Json) (n : Nat) (rest : List Char) (h : j.exact = true)
    (hn : (compactChars j).length < n) (hrest : Closes rest) :
    readValue n (compactChars j ++ rest) = some (j, rest) := by
  obtain ⟨n, rfl⟩ : ∃ m, n = m + 1 := ⟨n - 1, by omega⟩
  -- every part is shorter than the whole, so the bound that is left is large enough for it
  match j, h with
  | null, _ => rfl
  | boolean true, _ => rfl
  | boolean false, _ => rfl
  | integer i, h =>
    have hbounds : -0x8000000000000000 ≤ i ∧ i < UInt64.size := by simpa [exact] using h
    show readValue (n + 1) (intDigits i ++ rest) = _
    rw [readValue_intDigits, readNumber_intDigits hbounds.1 hbounds.2 hrest]
  | string s, _ => exact readValue_string n s rest
  | array [], _ =>
    have hgap : isGap ']' = false := by decide
    show readValue (n + 1) ('[' :: ']' :: rest) = _
    rw [readValue, skipGap_cons (by decide)]
    simp only [skipGap_cons hgap]
  | array (item :: items), h =>
    have hitems : exactItems (item :: items) = true := by simpa [exact] using h
    have hitem : item.exact = true := by
      rw [exactItems, Bool.and_eq_true] at hitems
      exact hitems.1
    have hlength : (compactItems (item :: items)).length < n := by
      simp only [compactChars, List.length_cons] at hn
      omega
    obtain ⟨c, cs, hcs, hgap, hc⟩ := compactChars_head hitem
    obtain ⟨more, hmore⟩ : ∃ more, compactItems (item :: items) ++ rest = c :: more := by
      cases items <;> simp [compactItems, hcs]
    have hread := readItems_compactItems item items n rest hitems hlength
    show readValue (n + 1) ('[' :: (compactItems (item :: items) ++ rest)) = _
    rw [hmore] at hread ⊢
    rw [readValue_items n hgap hc, hread, Option.map_some]
  | object [], _ =>
    have hgap : isGap '}' = false := by decide
    show readValue (n + 1) ('{' :: '}' :: rest) = _
    rw [readValue, skipGap_cons (by decide)]
    simp only [skipGap_cons hgap]
  | object ((name, value) :: members), h =>
    have hmembers : exactMembers ((name, value) :: members) = true := by simpa [exact] using h
    have hlength : (compactMembers ((name, value) :: members)).length < n := by
      simp only [compactChars, List.length_cons] at hn
      omega
    obtain ⟨more, hmore⟩ : ∃ more, compactMembers ((name, value) :: members) ++ rest = '"' :: more := by
      cases members <;> simp [compactMembers, quoted]
    have hread := readMembers_compactMembers name value members n rest hmembers hlength
    show readValue (n + 1) ('{' :: (compactMembers ((name, value) :: members) ++ rest)) = _
    rw [hmore] at hread ⊢
    rw [readValue_members, hread, Option.map_some, objectOf_named]
termination_by n

theorem readItems_compactItems (j : Json) (items : List Json) (n : Nat) (rest : List Char)
    (h : exactItems (j :: items) = true) (hn : (compactItems (j :: items)).length < n) :
    readItems n (compactItems (j :: items) ++ rest) = some (j :: items, rest) := by
  obtain ⟨n, rfl⟩ : ∃ m, n = m + 1 := ⟨n - 1, by omega⟩
  simp only [exactItems, Bool.and_eq_true] at h
  match items, h with
  | [], h =>
    simp only [compactItems, List.length_append, List.length_singleton] at hn
    have hitem := readValue_compactChars j n (']' :: rest) h.1 (by omega) (.bracket rest)
    simp only [compactItems, List.append_assoc, List.singleton_append]
    rw [readItems, hitem]
    simp [skipGap_cons (show isGap ']' = false by decide)]
  | item :: items, h =>
    simp only [compactItems, List.length_append, List.length_cons] at hn
    have hitem := readValue_compactChars j n (',' :: (compactItems (item :: items) ++ rest)) h.1 (by omega) (.comma _)
    have hitems := readItems_compactItems item items n rest h.2 (by omega)
    simp only [compactItems, List.append_assoc, List.cons_append]
    rw [readItems, hitem]
    simp [skipGap_cons (show isGap ',' = false by decide), hitems]
termination_by n

theorem readMembers_compactMembers (name : String) (j : Json) (members : List (String × Json)) (n : Nat)
    (rest : List Char) (h : exactMembers ((name, j) :: members) = true)
    (hn : (compactMembers ((name, j) :: members)).length < n) :
    readMembers n (compactMembers ((name, j) :: members) ++ rest) =
      some (((name, j) :: members).map fun e => (some e.1, e.2), rest) := by
  obtain ⟨n, rfl⟩ : ∃ m, n = m + 1 := ⟨n - 1, by omega⟩
  have hquote : isGap '"' = false := by decide
  have hcolon : isGap ':' = false := by decide
  have hcomma : isGap ',' = false := by decide
  have hbrace : isGap '}' = false := by decide
  simp only [exactMembers, Bool.and_eq_true] at h
  match members, h with
  | [], h =>
    simp only [compactMembers, List.length_append, List.length_cons] at hn
    have hvalue := readValue_compactChars j n ('}' :: rest) h.1 (by omega) (.brace rest)
    have htext : compactMembers [(name, j)] ++ rest =
        '"' :: (name.toList.flatMap escaped ++ '"' :: ':' :: (compactChars j ++ '}' :: rest)) := by
      simp [compactMembers, quoted]
    rw [htext, readMembers, skipGap_cons hquote]
    simp [readString_escaped, skipGap_cons hcolon, hvalue, skipGap_cons hbrace]
  | (name', j') :: members, h =>
    simp only [compactMembers, List.length_append, List.length_cons] at hn
    have hvalue := readValue_compactChars j n (',' :: (compactMembers ((name', j') :: members) ++ rest)) h.1 (by omega)
      (.comma _)
    have hmembers := readMembers_compactMembers name' j' members n rest h.2 (by omega)
    have htext : compactMembers ((name, j) :: (name', j') :: members) ++ rest =
        '"' :: (name.toList.flatMap escaped ++ '"' :: ':' :: (compactChars j ++
          ',' :: (compactMembers ((name', j') :: members) ++ rest))) := by
      simp [compactMembers, quoted]
    rw [htext, readMembers, skipGap_cons hquote]
    simp [readString_escaped, skipGap_cons hcolon, hvalue, skipGap_cons hcomma, hmembers]
termination_by n

end

/-- The compact text of an exact value is read back as the value. -/
theorem parse?_compact {j : Json} (h : j.exact = true) : parse? j.compact = some j := by
  have hread := readValue_compactChars j ((compactChars j).length + 1) [] h (by omega) .nil
  rw [List.append_nil] at hread
  unfold parse? compact
  simp only [String.toList_ofList, hread]
  rfl

/-- No two exact values have one text. -/
theorem compact_injective {j k : Json} (hj : j.exact = true) (hk : k.exact = true) (h : j.compact = k.compact) :
    j = k := by
  have hread : parse? j.compact = parse? k.compact := congrArg parse? h
  rw [parse?_compact hj, parse?_compact hk] at hread
  exact Option.some.inj hread

end CatalogFinder.Json
