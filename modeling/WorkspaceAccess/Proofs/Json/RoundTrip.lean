import WorkspaceAccess.Json.Decode
import WorkspaceAccess.Json.Printer
import WorkspaceAccess.Json.Reader

/-!
# Reading What Was Written

A value of texts, truth values, lists and objects is read back from its compact form, unless it has
too many lists and objects inside each other. `Printer.letters` are the characters of the compact
form, and `Reader.Reads` says of a value that the reader takes exactly these from the front of a
text.

The reader is a machine with fuel: it goes through the characters with a depth and a bound on its
steps, and gives up where either is used up. So `Reads` quantifies over what follows the value and
asks for enough fuel in terms of the characters, two steps for each at most; that is what makes it
compose, since the items of a list are read one after the other from one text.

Texts are the hard part. A character is written as it is, as one of seven short escapes, or by its
number in four digits to base sixteen, and what stands between the quotes has to be read up to the
right quote. Numbers are left out: none of the objects that the controllers write has any but in the
metadata, and a value with numbers is read back only when their form is exact.

## Main results

* `Printer.toList_compact`: the characters of the compact form.
* `Reader.stringBody_escaped`: what stands between the quotes is read up to the closing quote.
* `Reader.items?_letters`, `Reader.members?_letters`: the items of a list and the members of an
  object are read up to the closing bracket.
* `Reader.reads_of_isWorded`: a value without numbers is read from its characters, by induction on
  the value.
* `isWorded_objectOf`, `isWorded_array_map`, `isWorded_ofStringMap`: records, lists and maps have no
  numbers in them when their parts have none.
* `parse?_compact`: a value without numbers is read back from its compact form.
-/

namespace WorkspaceAccess.Json

/-! ### The characters that a value is written with -/

namespace Printer

/-- What stands between the quotes for some characters, one after the other. -/
def escaped (cs : List Char) : List Char := cs.flatMap fun c => (character c).toList

/-- What is written for a text, with the quotes around it. -/
def quoted (s : String) : List Char := '"' :: (escaped s.toList ++ ['"'])

mutual

/-- What is written for a value, as a list of characters. The recursion is that of the printer,
without the text that is already there. -/
def letters : Json → List Char
  | .array (j :: rest) => '[' :: (letters j ++ itemLetters rest ++ [']'])
  | .object (m :: rest) =>
    '\x7b' :: (quoted m.1 ++ ':' :: (letters m.2 ++ memberLetters rest ++ ['\x7d']))
  | .string s => quoted s
  | .bool true => "true".toList
  | .bool false => "false".toList
  | .integer n => (toString n).toList
  | .float negative magnitude => (float negative magnitude).toList
  | .array [] => "[]".toList
  | .object [] => "\x7b\x7d".toList
  | .null | .unreadable => "null".toList

/-- What is written for the further items of a list. -/
def itemLetters : List Json → List Char
  | [] => []
  | j :: rest => ',' :: (letters j ++ itemLetters rest)

/-- What is written for the further members of an object. -/
def memberLetters : List (String × Json) → List Char
  | [] => []
  | m :: rest => ',' :: (quoted m.1 ++ ':' :: (letters m.2 ++ memberLetters rest))

end

/-- A text is written behind what was written before, in quotes and with escapes. -/
theorem toList_text (acc s : String) : (text acc s).toList = acc.toList ++ quoted s := by
  have hfold : ∀ (cs : List Char) (acc : String),
      (cs.foldl (fun acc c => acc ++ character c) acc).toList = acc.toList ++ escaped cs := by
    intro cs
    induction cs with
    | nil => simp [escaped]
    | cons c cs ih => simp [escaped, ih]
  simp [text, quoted, hfold]

mutual

/-- A value is written behind what was written before: the printer carries its output along, and
`letters` does not. -/
theorem toList_value (acc : String) : ∀ j, (value acc j).toList = acc.toList ++ letters j
  | .null | .unreadable | .bool true | .bool false | .integer _ | .float _ _ | .array []
  | .object [] => by simp only [letters, value, String.toList_append]
  | .string s => by simp only [letters, value, toList_text]
  | .array (j :: rest) => by
    simp [letters, value, toList_items _ rest, toList_value _ j]
  | .object ((name, j) :: rest) => by
    simp [letters, value, toList_members _ rest, toList_value _ j, toList_text]

/-- The further items of a list are written behind the first ones. -/
theorem toList_items (acc : String) : ∀ l, (items acc l).toList = acc.toList ++ itemLetters l
  | [] => by simp [itemLetters, items]
  | j :: rest => by simp [itemLetters, items, toList_items _ rest, toList_value _ j]

/-- The further members of an object are written behind the first ones. -/
theorem toList_members (acc : String) :
    ∀ l, (members acc l).toList = acc.toList ++ memberLetters l
  | [] => by simp [memberLetters, members]
  | (name, j) :: rest => by
    simp [memberLetters, members, toList_members _ rest, toList_value _ j, toList_text]

end

/-- The compact form of a value has these characters and no others. -/
theorem toList_compact (j : Json) : j.compact.toList = letters j := toList_value "" j

end Printer

/-! ### Reading them -/

namespace Reader

open Printer (escaped quoted letters itemLetters memberLetters)

/-- A text that goes on after an escape by number has digits to base sixteen in it. -/
theorem exists_hexNumber? {a b c d : Char} {t : List Char} {read : Option (List Char) × List Char}
    (h : stringBody ('\\' :: 'u' :: a :: b :: c :: d :: t) = some read) :
    ∃ n, Text.hexNumber? [a, b, c, d] = some n := by
  -- The reader tells apart whether another escape by number follows, since two of them may be one
  -- character.
  rw [stringBody.eq_def] at h
  split at h
  case h_3 heq =>
    cases heq
    obtain ⟨n, hn, -⟩ := Option.bind_eq_some_iff.mp h
    exact ⟨n, hn⟩
  case h_4 heq =>
    cases heq
    obtain ⟨n, hn, -⟩ := Option.bind_eq_some_iff.mp h
    exact ⟨n, hn⟩
  case h_5 hother heq =>
    cases heq
    exact absurd rfl (hother _ _ _ _ _ rfl)
  all_goals grind

/-- An escape by the number of a character that is no half of a surrogate pair is read. -/
theorem stringBody_numbered {a b c d : Char} {n : Nat} (h : Text.hexNumber? [a, b, c, d] = some n)
    (hn : n < 0xD800) {t : List Char} {read : Option (List Char) × List Char}
    (hrest : stringBody t = some read) :
    stringBody ('\\' :: 'u' :: a :: b :: c :: d :: t) =
      stringBody.before (some (Char.ofNat n)) read := by
  have hunit : unit? n = some (Char.ofNat n) := if_neg (by omega)
  have hpair (second : Nat) : pair? n second = none := if_neg (by omega)
  rw [stringBody.eq_def]
  split
  case h_3 heq =>
    cases heq
    obtain ⟨second, hsecond⟩ := exists_hexNumber? hrest
    simp [h, hsecond, hpair, hrest, hunit]
  case h_4 heq =>
    cases heq
    simp [h, hrest, hunit]
  case h_5 hother heq =>
    cases heq
    exact absurd rfl (hother _ _ _ _ _ rfl)
  all_goals grind

/-- The number of a control character is read from the digits that it is written with. -/
theorem hexNumber?_hexDigit {n : Nat} (h : n < 0x20) :
    Text.hexNumber? ['0', '0', Printer.hexDigit (n / 16), Printer.hexDigit (n % 16)] = some n := by
  revert n
  decide

/-- A character that has no meaning of its own is read as it is. -/
theorem stringBody_other {c : Char} (hquote : c ≠ '"') (hescape : c ≠ '\\')
    (hcontrol : ¬c.toNat < 0x20) (t : List Char) :
    stringBody (c :: t) = (stringBody t).bind (stringBody.before (some c)) := by
  rw [stringBody.eq_def]
  split
  case h_6 heq =>
    cases heq
    simp [hcontrol, hescape]
  all_goals grind

/-- What stands between the quotes is read up to the closing quote. -/
theorem stringBody_escaped (cs rest : List Char) :
    stringBody (escaped cs ++ '"' :: rest) = some (some cs, rest) := by
  induction cs with
  | nil => simp [escaped, stringBody]
  | cons c cs ih =>
    have hcons : escaped (c :: cs) ++ '"' :: rest =
        (Printer.character c).toList ++ (escaped cs ++ '"' :: rest) := by simp [escaped]
    rw [hcons]
    generalize escaped cs ++ '"' :: rest = t at ih
    -- Seven characters have an escape of their own; all others are written as they are or, if they
    -- are control characters, by their number.
    rw [Printer.character.eq_def]
    split
    case h_8 hquote hback _ _ _ _ _ =>
      split
      · rename_i hcontrol
        have hnumber := hexNumber?_hexDigit hcontrol
        have hlist : ("\\u00" ++ String.ofList [Printer.hexDigit (c.toNat / 16),
              Printer.hexDigit (c.toNat % 16)]).toList ++ t =
            '\\' :: 'u' :: '0' :: '0' :: Printer.hexDigit (c.toNat / 16) ::
              Printer.hexDigit (c.toNat % 16) :: t := by
          simp
        rw [hlist, stringBody_numbered hnumber (by omega) ih, Char.ofNat_toNat]
        rfl
      · rename_i hcontrol
        have hlist : c.toString.toList ++ t = c :: t := by simp
        rw [hlist, stringBody_other hquote hback hcontrol, ih]
        rfl
    all_goals
      simp [stringBody, ih, escape?, stringBody.before]

end Reader

/-- The value has no numbers in it, all of it can be held, and at most so many lists and objects are
inside each other. -/
inductive IsWorded : Nat → Json → Prop
  | null {n : Nat} : IsWorded n .null
  | bool {n : Nat} (b : Bool) : IsWorded n (.bool b)
  | string {n : Nat} (s : String) : IsWorded n (.string s)
  | array {n : Nat} {items : List Json} (h : ∀ j ∈ items, IsWorded n j) :
      IsWorded (n + 1) (.array items)
  | object {n : Nat} {members : List (String × Json)} (h : ∀ m ∈ members, IsWorded n m.2) :
      IsWorded (n + 1) (.object members)

attribute [simp] IsWorded.null IsWorded.bool IsWorded.string

namespace Reader

open Printer (escaped quoted letters itemLetters memberLetters)

/-- The value is read from its characters at some depth, whatever follows them. Every character
costs the reader at most two steps. -/
def Reads (depth : Nat) (j : Json) : Prop :=
  ∀ fuel rest, 2 * (letters j).length ≤ fuel →
    value? fuel depth (letters j ++ rest) = some (j, rest)

/-- A value does not begin with a blank, nor with the end of a list. -/
theorem head_letters {n : Nat} {j : Json} (h : IsWorded n j) :
    ∃ c cs, letters j = c :: cs ∧ isGap c = false ∧ c ≠ ']' := by
  cases h with
  | null => exact ⟨_, _, rfl, by decide, by decide⟩
  | bool b => cases b <;> exact ⟨_, _, rfl, by decide, by decide⟩
  | string s => exact ⟨_, _, rfl, by decide, by decide⟩
  | @array _ items _ => cases items <;> exact ⟨_, _, rfl, by decide, by decide⟩
  | @object _ members _ => cases members <;> exact ⟨_, _, rfl, by decide, by decide⟩

/-- No gap is skipped before a character that is none. -/
theorem skipGap_cons {c : Char} (h : isGap c = false) (cs : List Char) :
    skipGap (c :: cs) = c :: cs := by
  simp [skipGap, h]

section

variable {depth fuel : Nat} {rest : List Char}

/-- The items of a list are read up to the closing bracket. -/
theorem items?_letters {j : Json} {items : List Json} (h : ∀ i ∈ j :: items, Reads depth i)
    (hfuel : 2 * (letters j ++ itemLetters items).length < fuel) :
    items? fuel depth (letters j ++ (itemLetters items ++ ']' :: rest)) =
      some (j :: items, rest) := by
  induction items generalizing j fuel with
  | nil =>
    obtain ⟨fuel, rfl⟩ := Nat.exists_eq_add_one_of_ne_zero (Nat.ne_zero_of_lt hfuel)
    rw [List.length_append] at hfuel
    rw [items?, h j List.mem_cons_self fuel _ (by omega)]
    rfl
  | cons i items ih =>
    obtain ⟨fuel, rfl⟩ := Nat.exists_eq_add_one_of_ne_zero (Nat.ne_zero_of_lt hfuel)
    rw [itemLetters, List.length_append, List.length_cons] at hfuel
    have hrest : items? fuel depth (letters i ++ (itemLetters items ++ ']' :: rest)) =
        some (i :: items, rest) := ih (fun k hk => h k (List.mem_cons_of_mem j hk)) (by omega)
    rw [items?, h j List.mem_cons_self fuel _ (by omega), itemLetters, List.cons_append,
      List.append_assoc]
    show (items? fuel depth _).bind _ = _
    rw [hrest]
    rfl

/-- What is read after a member: the end of the object, or more members. -/
def afterMember (fuel depth : Nat) (m : String × Json) (t : List Char) :
    Option (Option (List (String × Json)) × List Char) :=
  match skipGap t with
  | '\x7d' :: rest => some (some [m], rest)
  | ',' :: rest => (members? fuel depth rest).bind fun read =>
    some (read.1.bind fun members => some (m :: members), read.2)
  | _ => none

/-- A member of an object is read, and what comes after it is left to the rest of the reading. -/
theorem members?_member {m : String × Json} (h : Reads depth m.2)
    (hfuel : 2 * (letters m.2).length ≤ fuel) (t : List Char) :
    members? (fuel + 1) depth (quoted m.1 ++ ':' :: (letters m.2 ++ t)) =
      afterMember fuel depth m t := by
  have hname : stringBody (escaped m.1.toList ++ '"' :: ':' :: (letters m.2 ++ t)) =
      some (some m.1.toList, ':' :: (letters m.2 ++ t)) := stringBody_escaped _ _
  have hvalue := h fuel t hfuel
  have hgap : isGap '"' = false := by decide
  have hcolon : isGap ':' = false := by decide
  have htext : quoted m.1 ++ ':' :: (letters m.2 ++ t) =
      '"' :: (escaped m.1.toList ++ '"' :: ':' :: (letters m.2 ++ t)) := by simp [quoted]
  have hm : (m.1, m.2) = m := rfl
  rw [htext, members?, skipGap_cons hgap]
  simp only [hname, Option.bind_eq_bind, Option.bind_some, skipGap_cons hcolon, hvalue,
    Option.map_some, String.ofList_toList, hm]
  rfl

/-- The members of an object are read up to the closing brace. -/
theorem members?_letters {m : String × Json} {members : List (String × Json)}
    (h : ∀ i ∈ m :: members, Reads depth i.2)
    (hfuel : 2 * (quoted m.1 ++ ':' :: (letters m.2 ++ memberLetters members)).length < fuel) :
    members? fuel depth
        (quoted m.1 ++ ':' :: (letters m.2 ++ (memberLetters members ++ '\x7d' :: rest))) =
      some (some (m :: members), rest) := by
  induction members generalizing m fuel with
  | nil =>
    obtain ⟨fuel, rfl⟩ := Nat.exists_eq_add_one_of_ne_zero (Nat.ne_zero_of_lt hfuel)
    rw [List.length_append, List.length_cons, List.length_append] at hfuel
    rw [members?_member (h m List.mem_cons_self) (by omega)]
    rfl
  | cons i items ih =>
    obtain ⟨fuel, rfl⟩ := Nat.exists_eq_add_one_of_ne_zero (Nat.ne_zero_of_lt hfuel)
    rw [memberLetters, List.length_append, List.length_cons, List.length_append,
      List.length_cons] at hfuel
    have hrest : members? fuel depth
        (quoted i.1 ++ ':' :: (letters i.2 ++ (memberLetters items ++ '\x7d' :: rest))) =
          some (some (i :: items), rest) :=
      ih (fun k hk => h k (List.mem_cons_of_mem m hk)) (by omega)
    rw [members?_member (h m List.mem_cons_self) (by omega), memberLetters, List.cons_append,
      List.append_assoc, List.cons_append, List.append_assoc]
    show (members? fuel depth _).bind _ = _
    rw [hrest]
    rfl

/-- A list is read, if it may be as deep as it is. -/
theorem reads_array {n : Nat} {items : List Json} (hworded : ∀ j ∈ items, IsWorded n j)
    (h : ∀ j ∈ items, Reads (depth + 1) j) (hdepth : depth < depthLimit) :
    Reads depth (.array items) := by
  intro fuel rest hfuel
  cases items with
  | nil =>
    obtain ⟨fuel, rfl⟩ := Nat.exists_eq_add_one_of_ne_zero (Nat.ne_zero_of_lt hfuel)
    show some (if depth < depthLimit then _ else _, rest) = _
    rw [if_pos hdepth]
  | cons j items =>
    obtain ⟨c, cs, hletters, hgap, hclose⟩ :=
      head_letters (hworded j List.mem_cons_self)
    rw [letters, List.length_cons, List.length_append] at hfuel
    obtain ⟨fuel, rfl⟩ := Nat.exists_eq_add_one_of_ne_zero (n := fuel) (by omega)
    have hitems : items? fuel (depth + 1) (letters j ++ (itemLetters items ++ ']' :: rest)) =
        some (j :: items, rest) := items?_letters h (by omega)
    have hopen : isGap '[' = false := by decide
    have htext : letters (.array (j :: items)) ++ rest =
        '[' :: (letters j ++ (itemLetters items ++ ']' :: rest)) := by simp [letters]
    rw [hletters, List.cons_append] at hitems htext
    rw [htext, value?, skipGap_cons hopen]
    simp [skipGap_cons hgap, hclose, hitems, hdepth]

/-- An object is read, if it may be as deep as it is. -/
theorem reads_object {members : List (String × Json)} (h : ∀ m ∈ members, Reads (depth + 1) m.2)
    (hdepth : depth < depthLimit) : Reads depth (.object members) := by
  intro fuel rest hfuel
  cases members with
  | nil =>
    obtain ⟨fuel, rfl⟩ := Nat.exists_eq_add_one_of_ne_zero (Nat.ne_zero_of_lt hfuel)
    show some (if depth < depthLimit then _ else _, rest) = _
    rw [if_pos hdepth]
  | cons m members =>
    rw [letters, List.length_cons] at hfuel
    obtain ⟨fuel, rfl⟩ := Nat.exists_eq_add_one_of_ne_zero (n := fuel) (by omega)
    have hmembers : members? fuel (depth + 1)
        (quoted m.1 ++ ':' :: (letters m.2 ++ (memberLetters members ++ '\x7d' :: rest))) =
          some (some (m :: members), rest) :=
      members?_letters h (by simp only [List.length_append, List.length_cons] at hfuel ⊢; omega)
    have hopen : isGap '\x7b' = false := by decide
    have hquote : isGap '"' = false := by decide
    have htext : letters (.object (m :: members)) ++ rest = '\x7b' ::
        (quoted m.1 ++ ':' :: (letters m.2 ++ (memberLetters members ++ '\x7d' :: rest))) := by
      simp [letters]
    simp only [quoted, List.cons_append, List.append_assoc, List.nil_append] at hmembers htext
    rw [htext, value?, skipGap_cons hopen]
    simp [skipGap_cons hquote, hmembers, hdepth]

end

/-- A value without numbers is read from its characters. -/
theorem reads_of_isWorded {n : Nat} {j : Json} (h : IsWorded n j) (depth : Nat)
    (hdepth : depth + n ≤ depthLimit) : Reads depth j := by
  induction h generalizing depth with
  | null =>
    intro fuel rest hfuel
    obtain ⟨fuel, rfl⟩ := Nat.exists_eq_add_one_of_ne_zero (Nat.ne_zero_of_lt hfuel)
    rfl
  | bool b =>
    intro fuel rest hfuel
    cases b <;>
    · obtain ⟨fuel, rfl⟩ := Nat.exists_eq_add_one_of_ne_zero (Nat.ne_zero_of_lt hfuel)
      rfl
  | string s =>
    intro fuel rest hfuel
    obtain ⟨fuel, rfl⟩ := Nat.exists_eq_add_one_of_ne_zero (Nat.ne_zero_of_lt hfuel)
    have hquote : isGap '"' = false := by decide
    simp [letters, quoted, value?, skipGap_cons hquote, stringBody_escaped]
  | @array n items h ih => exact reads_array h (fun j hj => ih j hj _ (by omega)) (by omega)
  | @object n members h ih => exact reads_object (fun m hm => ih m hm _ (by omega)) (by omega)

end Reader

/-- A record has no numbers in it when none of its fields is one. -/
theorem isWorded_objectOf {n : Nat} {fields : List (String × Option Json)}
    (h : ∀ f ∈ fields, ∀ v, f.2 = some v → IsWorded n v) : IsWorded (n + 1) (objectOf fields) := by
  refine .object fun m hm => ?_
  obtain ⟨f, hf, hvalue⟩ := List.mem_filterMap.mp hm
  obtain ⟨v, hv, rfl⟩ := Option.map_eq_some_iff.mp hvalue
  exact h f hf v hv

/-- A list has no numbers in it when none of its items is one. -/
theorem isWorded_array_map {α : Type} {n : Nat} {encode : α → Json}
    (h : ∀ a, IsWorded n (encode a)) (l : List α) : IsWorded (n + 1) (.array (l.map encode)) := by
  refine .array fun j hj => ?_
  obtain ⟨a, -, rfl⟩ := List.mem_map.mp hj
  exact h a

/-- A map of texts has no numbers in it. -/
theorem isWorded_ofStringMap (n : Nat) (m : SortedMap String String) :
    IsWorded (n + 1) (ofStringMap m) := by
  refine .object fun e he => ?_
  obtain ⟨a, -, rfl⟩ := List.mem_map.mp he
  exact .string _

/-- A value without numbers is read back from its compact form. -/
theorem parse?_compact {n : Nat} {j : Json} (h : IsWorded n j) (hn : n ≤ Reader.depthLimit) :
    parse? j.compact = some j := by
  have hread := Reader.reads_of_isWorded h 0 (by omega) (2 * (Printer.letters j).length + 2) []
    (by omega)
  rw [List.append_nil] at hread
  rw [parse?, Printer.toList_compact]
  simp [hread, Reader.skipGap]

end WorkspaceAccess.Json
