import Criteria.Json.Printer
import Criteria.Json.Reader
import Criteria.Proofs.Text.Scan
import Mathlib.Data.List.Forall2

/-!
# Compact JSON text read back

A string in quotes is read back as itself, whatever characters it has: each is written
as one piece, and the pieces stand for the characters. An object is read back when its
members are.
-/

namespace Criteria

namespace JsonPiece

/-! ## The pieces of a written string -/

/-- The piece that a character is written as. -/
def ofChar (c : Char) : JsonPiece :=
  if c.toNat < 0x20 ∧ c ∉ ['\x08', '\x0c', '\n', '\r', '\t'] then .unit c.toNat else .plain c

def ofText (text : String) : List JsonPiece :=
  text.toList.map ofChar

theorem characters?_ofChar (c : Char) (rest : List JsonPiece) :
    characters? (ofChar c :: rest) = (characters? rest).map (c :: ·) := by
  unfold ofChar
  split
  · rename_i control
    have notHigh : isHigh c.toNat = false := by
      simp only [isHigh, Bool.and_eq_false_iff, decide_eq_false_iff_not]
      omega
    have notLow : isLow c.toNat = false := by
      simp only [isLow, Bool.and_eq_false_iff, decide_eq_false_iff_not]
      omega
    cases rest with
    | nil => simp [characters?, notHigh, notLow]
    | cons next more => cases next <;> simp [characters?, notHigh, notLow]
  · rfl

/-- A string is read back from the pieces that it is written as. -/
theorem string?_ofText (text : String) : string? (ofText text) = some text := by
  have characters : ∀ written : List Char, characters? (written.map ofChar) = some written := by
    intro written
    induction written with
    | nil => rfl
    | cons c rest ih => rw [List.map_cons, characters?_ofChar, ih, Option.map_some]
  rw [string?, ofText, characters, Option.map_some, String.ofList_toList]

end JsonPiece

namespace JsonTerm

theorem quad?_control : ∀ code < 32,
    Hexadecimal.quad? '0' '0' (Hexadecimal.digit (code / 16)) (Hexadecimal.digit (code % 16)) =
      some code := by
  decide

theorem pieces_short (letter : Char) {c : Char} (short : escaped? letter = some c)
    (rest : List Char) :
    pieces ('\\' :: letter :: rest) =
      (pieces rest).map fun read => (JsonPiece.plain c :: read.1, read.2) := by
  have notCode : letter ≠ 'u' := by
    rintro rfl
    cases short
  rw [pieces]
  · cases read : pieces rest <;> simp [short]
  · intro _ _ _ _ _ same
    exact absurd same notCode

theorem pieces_control {c : Char} (control : c.toNat < 0x20) (rest : List Char) :
    pieces ('\\' :: 'u' :: '0' :: '0' :: Hexadecimal.pair (UInt8.ofNat c.toNat) ++ rest) =
      (pieces rest).map fun read => (JsonPiece.unit c.toNat :: read.1, read.2) := by
  have byte : (UInt8.ofNat c.toNat).toNat = c.toNat := by
    simp
    omega
  have code := quad?_control c.toNat control
  simp only [Hexadecimal.pair, byte, List.cons_append, List.nil_append, pieces, code]
  cases read : pieces rest <;> simp

theorem pieces_plain {c : Char} (printed : 0x20 ≤ c.toNat) (notQuote : c ≠ '"')
    (notBackslash : c ≠ '\\') (rest : List Char) :
    pieces (c :: rest) =
      (pieces rest).map fun read => (JsonPiece.plain c :: read.1, read.2) := by
  have kept : ¬(c.toNat < 0x20 ∨ c = '\\') := by
    rintro (control | backslash)
    · omega
    · exact notBackslash backslash
  rw [pieces, if_neg kept]
  · cases read : pieces rest <;> simp
  · exact notQuote
  · intro _ _ _ _ _ same
    exact absurd same notBackslash
  · intro _ _ same
    exact absurd same notBackslash

/-- A written character is read as its piece, and reading goes on behind it. -/
theorem pieces_escape (c : Char) (rest : List Char) :
    pieces (Json.escape c ++ rest) =
      (pieces rest).map fun read => (JsonPiece.ofChar c :: read.1, read.2) := by
  by_cases short : c ∈ ['"', '\\', '\x08', '\x0c', '\n', '\r', '\t']
  · simp only [List.mem_cons, List.not_mem_nil, or_false] at short
    rcases short with rfl | rfl | rfl | rfl | rfl | rfl | rfl
    · exact pieces_short '"' rfl rest
    · exact pieces_short '\\' rfl rest
    · exact pieces_short 'b' rfl rest
    · exact pieces_short 'f' rfl rest
    · exact pieces_short 'n' rfl rest
    · exact pieces_short 'r' rfl rest
    · exact pieces_short 't' rfl rest
  · simp only [List.mem_cons, List.not_mem_nil, or_false, not_or] at short
    obtain ⟨quote, backslash, b, f, n, r, t⟩ := short
    by_cases control : c.toNat < 0x20
    · have piece : JsonPiece.ofChar c = .unit c.toNat := by
        simp [JsonPiece.ofChar, control, b, f, n, r, t]
      have written : Json.escape c =
          '\\' :: 'u' :: '0' :: '0' :: Hexadecimal.pair (UInt8.ofNat c.toNat) := by
        simp [Json.escape, control, quote, backslash, b, f, n, r, t]
      rw [piece, written]
      exact pieces_control control rest
    · have piece : JsonPiece.ofChar c = .plain c := by
        simp [JsonPiece.ofChar, control]
      have written : Json.escape c = [c] := by
        simp [Json.escape, control, quote, backslash, b, f, n, r, t]
      rw [piece, written]
      exact pieces_plain (by omega) quote backslash rest

theorem pieces_written (text rest : List Char) :
    pieces (text.flatMap Json.escape ++ '"' :: rest) =
      some (text.map JsonPiece.ofChar, rest) := by
  induction text with
  | nil => simp [pieces]
  | cons c more ih =>
      rw [List.flatMap_cons, List.append_assoc, pieces_escape, ih]
      rfl

theorem quote_append (text : String) (rest : List Char) :
    Json.quote text ++ rest = '"' :: (text.toList.flatMap Json.escape ++ '"' :: rest) := by
  simp [Json.quote]

/-- A quoted string is read to its closing quote, whatever stands behind it. -/
theorem quoted_quote (text : String) (rest : List Char) :
    quoted (Json.quote text ++ rest) = some (JsonPiece.ofText text, rest) := by
  rw [quoted, quote_append, Scan.bind_of_some (Scan.char_cons _ _), pieces_written]
  rfl

/-! ## Objects -/

theorem skipSpace_cons {c : Char} (solid : c ∉ [' ', '\n', '\t', '\r']) (rest : List Char) :
    skipSpace (c :: rest) = some ((), c :: rest) := by
  simp only [List.mem_cons, List.not_mem_nil, or_false, not_or] at solid
  simp [skipSpace, solid]

theorem skipSpace_quote (text : String) (rest : List Char) :
    skipSpace (Json.quote text ++ rest) = some ((), Json.quote text ++ rest) := by
  rw [quote_append]
  exact skipSpace_cons (by decide) _

/-- Behind the compact text of a value, whatever follows it, a scan has read the term. -/
def ReadOff (room : Nat) (json : Json) (term : JsonTerm) : Prop :=
  ∀ rest, scan room (Json.compact json ++ rest) = some (term, rest)

theorem readOff_string (room : Nat) (text : String) :
    ReadOff room (.string text) (.string (JsonPiece.ofText text)) := by
  intro rest
  have read : scalar (Json.quote text ++ rest) =
      some (.string (JsonPiece.ofText text), rest) := by
    have string := Scan.map_of_some (quoted_quote text rest) JsonTerm.string
    rw [quote_append] at string ⊢
    exact string
  have space := skipSpace_quote text rest
  rw [Json.compact]
  cases room with
  | zero => rw [scan, Scan.bind_of_some space, read]
  | succ room => rw [scan, Scan.bind_of_some space, Scan.orElse_of_some read]

def compactMember (entry : String × Json) : List Char :=
  Json.quote entry.1 ++ ':' :: Json.compact entry.2

theorem member_compactMember {room : Nat} {entry : String × Json} {term : JsonTerm}
    (read : ReadOff room entry.2 term) (rest : List Char) :
    member (scan room) (compactMember entry ++ rest) =
      some ((JsonPiece.ofText entry.1, term), rest) := by
  have colon : skipSpace (':' :: (Json.compact entry.2 ++ rest)) =
      some ((), ':' :: (Json.compact entry.2 ++ rest)) := skipSpace_cons (by decide) _
  rw [compactMember, List.append_assoc, List.cons_append, member,
    Scan.bind_of_some (skipSpace_quote _ _), Scan.bind_of_some (quoted_quote _ _),
    Scan.bind_of_some colon, Scan.bind_of_some (Scan.char_cons _ _),
    Scan.bind_of_some (read rest)]
  rfl

theorem compactMembers_append (members : List (String × Json)) (rest : List Char) :
    Json.compactMembers members ++ rest =
      members.flatMap (fun entry => ',' :: compactMember entry) ++ '\x7d' :: rest := by
  induction members with
  | nil => rfl
  | cons entry more ih =>
      obtain ⟨name, value⟩ := entry
      simp [Json.compactMembers, compactMember, ih]

/-- A scanner that reads each of some printed values reads all of them with commas
between them, provided the fuel lasts. -/
theorem items_printed {α β : Type} {close : Char} (closes : close ∉ [' ', '\n', '\t', '\r', ','])
    {item : Scan β} {print : α → List Char} {head : α} {tail : List α} {first : β}
    {further : List β} {fuel : Nat} (enough : tail.length < fuel)
    (readHead : ∀ rest, item (print head ++ rest) = some (first, rest))
    (readTail : List.Forall₂
      (fun value read => ∀ rest, item (print value ++ rest) = some (read, rest)) tail further)
    (rest : List Char) :
    items close item fuel
        (print head ++ (tail.flatMap (fun value => ',' :: print value) ++ close :: rest)) =
      some (first :: further, rest) := by
  have solid : close ∉ [' ', '\n', '\t', '\r'] := fun member =>
    closes (List.mem_append_left [','] member)
  have notComma : close ≠ ',' := fun same => closes (by simp [same])
  induction readTail generalizing head first fuel with
  | nil =>
      obtain ⟨fuel, rfl⟩ : ∃ less, fuel = less + 1 := ⟨fuel - 1, by omega⟩
      have space := skipSpace_cons solid rest
      have refused : (do Scan.char ','; let more ← items close item fuel; pure (first :: more) :
          Scan (List β)) (close :: rest) = none := by
        simp [bind, StateT.bind, Scan.char, notComma]
      rw [List.flatMap_nil, List.nil_append, items, Scan.bind_of_some (readHead _),
        Scan.bind_of_some space, Scan.orElse_of_none refused,
        Scan.bind_of_some (Scan.char_cons _ _)]
      rfl
  | cons readNext readMore ih =>
      rename_i next after more later
      obtain ⟨fuel, rfl⟩ : ∃ less, fuel = less + 1 := ⟨fuel - 1, by omega⟩
      have enoughLater : more.length < fuel := by simpa using enough
      have read := ih enoughLater readNext
      have comma := skipSpace_cons (c := ',') (by decide)
        (print next ++ (more.flatMap (fun value => ',' :: print value) ++ close :: rest))
      have goesOn : (do Scan.char ','; let more ← items close item fuel; pure (first :: more) :
          Scan (List β)) (',' ::
            (print next ++ (more.flatMap (fun value => ',' :: print value) ++ close :: rest))) =
          some (first :: after :: later, rest) := by
        rw [Scan.bind_of_some (Scan.char_cons _ _), Scan.bind_of_some read]
        rfl
      rw [List.flatMap_cons, List.cons_append, List.cons_append, List.append_assoc, items,
        Scan.bind_of_some (readHead _), Scan.bind_of_some comma, Scan.orElse_of_some goesOn]

theorem length_le_length_flatMap {α : Type} (print : α → List Char) (values : List α) :
    values.length ≤ (values.flatMap fun value => ',' :: print value).length := by
  induction values with
  | nil => simp
  | cons value more ih =>
      simp only [List.flatMap_cons, List.length_append, List.length_cons]
      omega

/-- Each of some members is read off its value's text under its name. -/
abbrev ReadOffMembers (room : Nat) (members : List (String × Json))
    (terms : List (List JsonPiece × JsonTerm)) : Prop :=
  List.Forall₂ (fun entry term => term.1 = JsonPiece.ofText entry.1 ∧
    ReadOff room entry.2 term.2) members terms

theorem member_of_readOffMembers {room : Nat} {members : List (String × Json)}
    {terms : List (List JsonPiece × JsonTerm)} (read : ReadOffMembers room members terms) :
    List.Forall₂
      (fun entry term => ∀ rest,
        member (scan room) (compactMember entry ++ rest) = some (term, rest))
      members terms := by
  refine read.imp ?_
  rintro entry ⟨name, term⟩ ⟨rfl, readTerm⟩ rest
  exact member_compactMember readTerm rest

theorem inside_closed {α : Type} {close : Char} (solid : close ∉ [' ', '\n', '\t', '\r'])
    (item : Scan α) (rest : List Char) : inside close item (close :: rest) = some ([], rest) := by
  have closed : (do Scan.char close; pure [] : Scan (List α)) (close :: rest) =
      some ([], rest) := by
    rw [Scan.bind_of_some (Scan.char_cons _ _)]
    rfl
  rw [inside, Scan.bind_of_some (skipSpace_cons solid rest), Scan.orElse_of_some closed]

theorem inside_open {α : Type} {close first : Char} (solid : first ∉ [' ', '\n', '\t', '\r'])
    (other : first ≠ close) (item : Scan α) (rest : List Char) :
    inside close item (first :: rest) =
      items close item ((first :: rest).length + 1) (first :: rest) := by
  have notClosed : (do Scan.char close; pure [] : Scan (List α)) (first :: rest) = none := by
    simp [bind, StateT.bind, Scan.char, other]
  rw [inside, Scan.bind_of_some (skipSpace_cons solid rest), Scan.orElse_of_none notClosed]

/-- The members between the braces are read one by one. -/
theorem inside_printed {room : Nat} {members : List (String × Json)}
    {terms : List (List JsonPiece × JsonTerm)} (read : ReadOffMembers room members terms)
    (rest : List Char) :
    ∃ text, Json.compact (.object members) ++ rest = '\x7b' :: text ∧
      inside '\x7d' (member (scan room)) text = some (terms, rest) := by
  cases members with
  | nil =>
      obtain rfl := List.forall₂_nil_left_iff.1 read
      exact ⟨'\x7d' :: rest, rfl, inside_closed (by decide) _ rest⟩
  | cons entry more =>
      obtain ⟨first, further, readFirst, readMore, rfl⟩ :=
        List.forall₂_cons_left_iff.1 (member_of_readOffMembers read)
      let behind := more.flatMap (fun member => ',' :: compactMember member) ++ '\x7d' :: rest
      have printed : Json.compact (.object (entry :: more)) ++ rest =
          '\x7b' :: (compactMember entry ++ behind) := by
        obtain ⟨name, value⟩ := entry
        simp only [behind]
        rw [← compactMembers_append]
        simp [Json.compact, compactMember]
      obtain ⟨inner, quote⟩ : ∃ inner, compactMember entry ++ behind = '"' :: inner := by
        simp only [compactMember, List.append_assoc]
        exact ⟨_, quote_append _ _⟩
      -- the fuel is the length of the text, and every further member has a comma there
      have enough : more.length < (compactMember entry ++ behind).length + 1 := by
        have commas := length_le_length_flatMap compactMember more
        simp only [behind, List.length_append]
        omega
      have closes : '\x7d' ∉ [' ', '\n', '\t', '\r', ','] := by decide
      have members := items_printed closes enough readFirst readMore rest
      refine ⟨_, printed, ?_⟩
      rw [quote, inside_open (by decide) (by decide), ← quote]
      exact members

/-- An object is read off its text if the values of its members are. -/
theorem readOff_object {room : Nat} {members : List (String × Json)}
    {terms : List (List JsonPiece × JsonTerm)} (read : ReadOffMembers room members terms) :
    ReadOff (room + 1) (.object members) (.object terms) := by
  intro rest
  obtain ⟨text, printed, inner⟩ := inside_printed read rest
  have space := skipSpace_cons (c := '\x7b') (by decide) text
  have notScalar : scalar ('\x7b' :: text) = none := by
    rfl
  have container : container (scan room) ('\x7b' :: text) = some (.object terms, rest) :=
    Scan.map_of_some inner JsonTerm.object
  rw [printed, scan, Scan.bind_of_some space, Scan.orElse_of_none notScalar, container]

/-- A whole compact text is the term that is read off it. -/
theorem ofText?_of_readOff {room : Nat} {json : Json} {term : JsonTerm}
    (read : ReadOff room json term) : ofText? room json.compactText = some term := by
  have whole : (do let term ← scan room; skipSpace; pure term : Scan JsonTerm)
      (Json.compact json) = some (term, []) := by
    have here := read []
    rw [List.append_nil] at here
    rw [Scan.bind_of_some here]
    rfl
  rw [ofText?, Scan.run?, Json.compactText, String.toList_ofList, whole]

end JsonTerm

end Criteria
