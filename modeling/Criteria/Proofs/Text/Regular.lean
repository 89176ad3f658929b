import Criteria.Text.Blank

/-!
# Regular expressions whose choices have an order

A regular expression at the front of a text can match it in several ways, and the ways
have an order: those of a first alternative come before those of a second, and a
repetition takes as many characters as it can before it takes fewer. A search takes the
first way that there is, which need not be the longest. Which texts an expression
describes does not depend on the order.
-/

namespace Criteria.Text

/-- A regular expression over characters. -/
inductive Regular
  | empty
  | one (accept : Char → Bool)
  | many (accept : Char → Bool)
  | sequence (first second : Regular)
  | either (first second : Regular)

namespace Regular

/-- An expression or nothing, in this order. -/
def optional (expression : Regular) : Regular :=
  either expression empty

/-- At least one character of a kind, as many as there are. -/
def oneOrMore (accept : Char → Bool) : Regular :=
  sequence (one accept) (many accept)

def word : List Char → Regular
  | [] => empty
  | c :: rest => sequence (one (· == c)) (word rest)

/-! ## What an expression describes -/

/-- Whether an expression describes a text. -/
def Accepts : Regular → List Char → Prop
  | empty, text => text = []
  | one accept, text => ∃ c, text = [c] ∧ accept c = true
  | many accept, text => ∀ c ∈ text, accept c = true
  | sequence first second, text =>
    ∃ front back, text = front ++ back ∧ first.Accepts front ∧ second.Accepts back
  | either first second, text => first.Accepts text ∨ second.Accepts text

theorem accepts_optional {expression : Regular} {text : List Char} :
    expression.optional.Accepts text ↔ expression.Accepts text ∨ text = [] :=
  Iff.rfl

theorem accepts_oneOrMore {accept : Char → Bool} {text : List Char} :
    (oneOrMore accept).Accepts text ↔ text ≠ [] ∧ ∀ c ∈ text, accept c = true := by
  constructor
  · rintro ⟨front, back, rfl, ⟨c, rfl, accepted⟩, all⟩
    refine ⟨List.cons_ne_nil c back, fun other member => ?_⟩
    rcases List.mem_cons.1 member with rfl | later
    · exact accepted
    · exact all other later
  · rintro ⟨nonempty, all⟩
    cases text with
    | nil => exact absurd rfl nonempty
    | cons c rest =>
        exact ⟨[c], rest, rfl, ⟨c, rfl, all c List.mem_cons_self⟩,
          fun other later => all other (List.mem_cons_of_mem c later)⟩

theorem accepts_word {expected text : List Char} :
    (word expected).Accepts text ↔ text = expected := by
  induction expected generalizing text with
  | nil => exact Iff.rfl
  | cons c rest ih =>
      constructor
      · rintro ⟨front, back, rfl, ⟨found, rfl, same⟩, more⟩
        rw [ih.1 more, beq_iff_eq.1 same, List.singleton_append]
      · rintro rfl
        exact ⟨[c], rest, rfl, ⟨c, rfl, beq_self_eq_true c⟩, ih.2 rfl⟩

/-- Whether all texts that an expression describes begin with a character of a kind. -/
def Begins (expression : Regular) (kind : Char → Prop) : Prop :=
  ∀ text, expression.Accepts text → ∃ c rest, text = c :: rest ∧ kind c

theorem begins_one {accept : Char → Bool} {kind : Char → Prop}
    (ofKind : ∀ c, accept c = true → kind c) : (one accept).Begins kind := by
  rintro text ⟨c, rfl, accepted⟩
  exact ⟨c, [], rfl, ofKind c accepted⟩

/-- A sequence begins as its first part does, for no text of that part is empty. -/
theorem Begins.sequence {first : Regular} {kind : Char → Prop} (begins : first.Begins kind)
    (second : Regular) : (sequence first second).Begins kind := by
  rintro text ⟨front, back, rfl, accepted, -⟩
  obtain ⟨c, rest, rfl, ofKind⟩ := begins front accepted
  exact ⟨c, rest ++ back, rfl, ofKind⟩

theorem Begins.either {first second : Regular} {kind : Char → Prop}
    (firstBegins : first.Begins kind) (secondBegins : second.Begins kind) :
    (either first second).Begins kind := by
  rintro text (accepted | accepted)
  · exact firstBegins text accepted
  · exact secondBegins text accepted

/-! ## The ways to match, in order -/

/-- The runs of accepted characters at the front of a text, longer ones first, each with
what it leaves. -/
def runs (accept : Char → Bool) : List Char → List (List Char × List Char)
  | [] => [([], [])]
  | c :: rest =>
    (if accept c then (runs accept rest).map fun way => (c :: way.1, way.2) else []) ++
      [([], c :: rest)]

/-- The ways in which an expression matches the front of a text, in order: what it takes
and what it leaves. -/
def ways : Regular → List Char → List (List Char × List Char)
  | empty, text => [([], text)]
  | one _, [] => []
  | one accept, c :: rest => if accept c then [([c], rest)] else []
  | many accept, text => runs accept text
  | sequence first second, text =>
    (first.ways text).flatMap fun way =>
      (second.ways way.2).map fun next => (way.1 ++ next.1, next.2)
  | either first second, text => first.ways text ++ second.ways text

def first? (expression : Regular) (text : List Char) : Option (List Char × List Char) :=
  (expression.ways text).head?

/-- The runs are all fronts of accepted characters. -/
theorem mem_runs_iff {accept : Char → Bool} {text taken rest : List Char} :
    (taken, rest) ∈ runs accept text ↔
      text = taken ++ rest ∧ ∀ c ∈ taken, accept c = true := by
  induction text generalizing taken with
  | nil =>
      rw [runs, List.mem_singleton, Prod.mk.injEq]
      constructor
      · rintro ⟨rfl, rfl⟩
        exact ⟨rfl, fun c member => absurd member List.not_mem_nil⟩
      · rintro ⟨split, -⟩
        exact List.append_eq_nil_iff.1 split.symm
  | cons c more ih =>
      rw [runs, List.mem_append, List.mem_singleton, Prod.mk.injEq]
      constructor
      · rintro (longer | ⟨rfl, rfl⟩)
        · split at longer
          · rename_i accepted
            obtain ⟨way, member, same⟩ := List.mem_map.1 longer
            obtain ⟨rfl, rfl⟩ := Prod.mk.inj same
            obtain ⟨rfl, all⟩ := ih.1 member
            exact ⟨rfl, List.forall_mem_cons.2 ⟨accepted, all⟩⟩
          · exact absurd longer List.not_mem_nil
        · exact ⟨rfl, fun c member => absurd member List.not_mem_nil⟩
      · rintro ⟨split, all⟩
        cases taken with
        | nil => exact Or.inr ⟨rfl, split.symm⟩
        | cons head tail =>
            obtain ⟨rfl, rfl⟩ := List.cons.inj split
            obtain ⟨accepted, tailAll⟩ := List.forall_mem_cons.1 all
            rw [if_pos accepted]
            exact Or.inl (List.mem_map.2 ⟨(tail, rest), ih.2 ⟨rfl, tailAll⟩, rfl⟩)

/-- The ways to match the front of a text are its prefixes that the expression
describes. -/
theorem mem_ways_iff {expression : Regular} {text taken rest : List Char} :
    (taken, rest) ∈ expression.ways text ↔
      text = taken ++ rest ∧ expression.Accepts taken := by
  induction expression generalizing text taken rest with
  | empty =>
      rw [ways, List.mem_singleton, Prod.mk.injEq]
      constructor
      · rintro ⟨rfl, rfl⟩
        exact ⟨rfl, rfl⟩
      · rintro ⟨rfl, rfl⟩
        exact ⟨rfl, rfl⟩
  | one accept =>
      constructor
      · intro member
        cases text with
        | nil => exact absurd member List.not_mem_nil
        | cons c more =>
            rw [ways] at member
            split at member
            · rename_i accepted
              obtain ⟨rfl, rfl⟩ := Prod.mk.inj (List.mem_singleton.1 member)
              exact ⟨rfl, c, rfl, accepted⟩
            · exact absurd member List.not_mem_nil
      · rintro ⟨rfl, c, rfl, accepted⟩
        rw [List.singleton_append, ways, if_pos accepted]
        exact List.mem_singleton.2 rfl
  | many accept => exact mem_runs_iff
  | sequence first second firstIh secondIh =>
      rw [ways, List.mem_flatMap]
      constructor
      · rintro ⟨⟨front, between⟩, frontMember, member⟩
        obtain ⟨⟨back, left⟩, backMember, same⟩ := List.mem_map.1 member
        obtain ⟨rfl, rfl⟩ := Prod.mk.inj same
        obtain ⟨rfl, frontAccepted⟩ := firstIh.1 frontMember
        obtain ⟨rfl, backAccepted⟩ := secondIh.1 backMember
        exact ⟨(List.append_assoc _ _ _).symm, front, back, rfl, frontAccepted, backAccepted⟩
      · rintro ⟨rfl, front, back, rfl, frontAccepted, backAccepted⟩
        refine ⟨(front, back ++ rest), firstIh.2 ⟨List.append_assoc _ _ _, frontAccepted⟩, ?_⟩
        exact List.mem_map.2 ⟨(back, rest), secondIh.2 ⟨rfl, backAccepted⟩, rfl⟩
  | either first second firstIh secondIh =>
      rw [ways, List.mem_append, firstIh, secondIh, ← and_or_left]
      exact Iff.rfl

theorem mem_ways_of_first? {expression : Regular} {text : List Char}
    {way : List Char × List Char} (first : expression.first? text = some way) :
    way ∈ expression.ways text :=
  List.mem_of_head? first

/-- Of two ways to match the front of a text the shorter one leaves the rest of the
longer one, and behind it what the longer one leaves. -/
theorem exists_of_shorter {expression : Regular} {text : List Char}
    {shorter longer : List Char × List Char} (shorterWay : shorter ∈ expression.ways text)
    (longerWay : longer ∈ expression.ways text) (less : shorter.1.length < longer.1.length) :
    ∃ c more, longer.1 = shorter.1 ++ c :: more ∧ shorter.2 = c :: more ++ longer.2 := by
  obtain ⟨shorterSplit, -⟩ := mem_ways_iff.1 shorterWay
  obtain ⟨longerSplit, -⟩ := mem_ways_iff.1 longerWay
  have same := shorterSplit.symm.trans longerSplit
  rcases List.append_eq_append_iff.1 same with ⟨more, longerEq, shorterEq⟩ | ⟨more, shorterEq, -⟩
  · cases more with
    | nil =>
        rw [longerEq, List.append_nil] at less
        exact absurd less (Nat.lt_irrefl _)
    | cons c more => exact ⟨c, more, longerEq, shorterEq⟩
  · have atMost : longer.1.length ≤ shorter.1.length := by
      rw [shorterEq, List.length_append]
      exact Nat.le_add_right _ _
    exact absurd less (Nat.not_lt.2 atMost)

/-- Two ways that take equally many characters are the same. -/
theorem eq_of_length_eq {expression : Regular} {text : List Char}
    {way other : List Char × List Char} (wayMember : way ∈ expression.ways text)
    (otherMember : other ∈ expression.ways text) (same : other.1.length = way.1.length) :
    other = way := by
  obtain ⟨waySplit, -⟩ := mem_ways_iff.1 wayMember
  obtain ⟨otherSplit, -⟩ := mem_ways_iff.1 otherMember
  obtain ⟨taken, left⟩ := List.append_inj (otherSplit.symm.trans waySplit) same
  exact Prod.ext taken left

/-! ## Expressions whose first way is the longest -/

/-- Whether the first way to match a text is always one that takes the most. -/
def PrefersLongest (expression : Regular) : Prop :=
  ∀ text way, expression.first? text = some way →
    ∀ other ∈ expression.ways text, other.1.length ≤ way.1.length

theorem prefersLongest_empty : empty.PrefersLongest := by
  intro text way first other member
  obtain rfl := List.mem_singleton.1 member
  exact Nat.zero_le _

theorem prefersLongest_one (accept : Char → Bool) : (one accept).PrefersLongest := by
  intro text way first other member
  obtain ⟨-, c, taken, -⟩ := mem_ways_iff.1 member
  obtain ⟨-, d, wayTaken, -⟩ := mem_ways_iff.1 (mem_ways_of_first? first)
  rw [taken, wayTaken]
  exact Nat.le_refl _

theorem length_le_of_head?_runs {accept : Char → Bool} {text : List Char}
    {way other : List Char × List Char} (first : (runs accept text).head? = some way)
    (member : other ∈ runs accept text) : other.1.length ≤ way.1.length := by
  induction text generalizing way other with
  | nil =>
      obtain rfl := List.mem_singleton.1 member
      exact Nat.zero_le _
  | cons c rest ih =>
      rw [runs] at first member
      rcases List.mem_append.1 member with longer | last
      · split at longer
        · rename_i accepted
          obtain ⟨inner, innerMember, rfl⟩ := List.mem_map.1 longer
          rw [if_pos accepted, List.head?_append, List.head?_map] at first
          cases head : (runs accept rest).head? with
          | none =>
              rw [List.head?_eq_none_iff.1 head] at innerMember
              exact absurd innerMember List.not_mem_nil
          | some best =>
              rw [head] at first
              obtain rfl := Option.some.inj first
              exact Nat.succ_le_succ (ih head innerMember)
        · exact absurd longer List.not_mem_nil
      · obtain rfl := List.mem_singleton.1 last
        exact Nat.zero_le _

/-- Repeating a character takes as many as there are. -/
theorem prefersLongest_many (accept : Char → Bool) : (many accept).PrefersLongest :=
  fun _ _ first _ member => length_le_of_head?_runs first member

/-- Two expressions in a row take the most if no shorter way of the first one lets the
second one come further. -/
theorem PrefersLongest.sequence {first second : Regular} (firstPrefers : first.PrefersLongest)
    (secondPrefers : second.PrefersLongest)
    (overtakes : ∀ text way, first.first? text = some way →
      ∀ other ∈ first.ways text, other.1.length < way.1.length →
        ∀ next ∈ second.ways other.2, ∃ last ∈ second.ways way.2,
          other.1.length + next.1.length ≤ way.1.length + last.1.length) :
    (sequence first second).PrefersLongest := by
  intro text way found other member
  rw [ways] at member
  obtain ⟨front, frontMember, member⟩ := List.mem_flatMap.1 member
  obtain ⟨back, backMember, rfl⟩ := List.mem_map.1 member
  cases best : first.first? text with
  | none =>
      rw [first?, List.head?_eq_none_iff] at best
      rw [best] at frontMember
      exact absurd frontMember List.not_mem_nil
  | some best₁ =>
      have bestMember := mem_ways_of_first? best
      -- some way through the first choice of `first` comes at least as far as this one
      have reached : ∃ last ∈ second.ways best₁.2,
          front.1.length + back.1.length ≤ best₁.1.length + last.1.length := by
        rcases Nat.lt_or_eq_of_le (firstPrefers text best₁ best front frontMember) with
          less | same
        · exact overtakes text best₁ best front frontMember less back backMember
        · obtain rfl := eq_of_length_eq bestMember frontMember same
          exact ⟨back, backMember, Nat.le_refl _⟩
      obtain ⟨last, lastMember, atMost⟩ := reached
      cases best₂ : second.first? best₁.2 with
      | none =>
          rw [first?, List.head?_eq_none_iff] at best₂
          rw [best₂] at lastMember
          exact absurd lastMember List.not_mem_nil
      | some next =>
          have nextLongest := secondPrefers best₁.2 next best₂ last lastMember
          have foundEq : way = (best₁.1 ++ next.1, next.2) := by
            rw [first?, List.head?_eq_some_iff] at best best₂
            obtain ⟨more, waysEq⟩ := best
            obtain ⟨others, nextEq⟩ := best₂
            rw [first?, ways, waysEq, List.flatMap_cons, nextEq, List.map_cons,
              List.cons_append, List.head?_cons] at found
            exact (Option.some.inj found).symm
          rw [foundEq, List.length_append, List.length_append]
          exact Nat.le_trans atMost (Nat.add_le_add_left nextLongest _)

/-- It is so if what the second one begins with is no character of the first one: a
shorter way of the first one leaves the second one nothing to begin with. -/
theorem PrefersLongest.sequence_of_apart {first second : Regular}
    (firstPrefers : first.PrefersLongest) (secondPrefers : second.PrefersLongest)
    {kind : Char → Prop} (begins : ∀ c rest, second.Accepts (c :: rest) → kind c)
    (apart : ∀ text, first.Accepts text → ∀ c ∈ text, ¬kind c) :
    (Regular.sequence first second).PrefersLongest := by
  refine firstPrefers.sequence secondPrefers ?_
  rintro text way found other member less ⟨next, behind⟩ nextMember
  have wayMember := mem_ways_of_first? found
  obtain ⟨c, more, taken, left⟩ := exists_of_shorter member wayMember less
  obtain ⟨-, wayAccepted⟩ := mem_ways_iff.1 wayMember
  obtain ⟨split, accepted⟩ := mem_ways_iff.1 nextMember
  have ofFirst : c ∈ way.1 := by simp [taken]
  cases next with
  | nil => exact ⟨([], way.2), mem_ways_iff.2 ⟨rfl, accepted⟩, Nat.le_of_lt less⟩
  | cons d rest =>
      rw [left, List.cons_append, List.cons_append] at split
      have beginsWith : kind c := (List.cons.inj split).1 ▸ begins d rest accepted
      exact absurd beginsWith (apart way.1 wayAccepted c ofFirst)

/-- Of two alternatives the first way is the longest if the second alternative never
comes further than the first one. -/
theorem PrefersLongest.either {first second : Regular} (firstPrefers : first.PrefersLongest)
    (secondPrefers : second.PrefersLongest)
    (overtakes : ∀ text way, first.first? text = some way →
      ∀ other ∈ second.ways text, other.1.length ≤ way.1.length) :
    (either first second).PrefersLongest := by
  intro text way found other member
  rw [first?, ways, List.head?_append] at found
  rw [ways, List.mem_append] at member
  cases best : first.first? text with
  | none =>
      have none := List.head?_eq_none_iff.1 best
      rw [none, List.head?_nil, Option.none_or] at found
      rw [none] at member
      exact secondPrefers text way found other (member.resolve_left List.not_mem_nil)
  | some way₁ =>
      have first := best
      rw [first?] at first
      rw [first, Option.some_or] at found
      obtain rfl := Option.some.inj found
      rcases member with inFirst | inSecond
      · exact firstPrefers text way₁ best other inFirst
      · exact overtakes text way₁ best other inSecond

/-- It is so if the two alternatives begin with characters of different kinds. -/
theorem PrefersLongest.either_of_begins {first second : Regular}
    (firstPrefers : first.PrefersLongest) (secondPrefers : second.PrefersLongest)
    {firstKind secondKind : Char → Prop} (firstBegins : first.Begins firstKind)
    (secondBegins : second.Begins secondKind)
    (apart : ∀ c, firstKind c → ¬secondKind c) : (Regular.either first second).PrefersLongest := by
  refine firstPrefers.either secondPrefers fun text way found other member => ?_
  obtain ⟨waySplit, wayAccepted⟩ := mem_ways_iff.1 (mem_ways_of_first? found)
  obtain ⟨otherSplit, otherAccepted⟩ := mem_ways_iff.1 member
  obtain ⟨c, rest, taken, ofFirst⟩ := firstBegins _ wayAccepted
  obtain ⟨d, more, otherTaken, ofSecond⟩ := secondBegins _ otherAccepted
  rw [otherSplit, taken, otherTaken, List.cons_append, List.cons_append] at waySplit
  rw [(List.cons.inj waySplit).1] at ofSecond
  exact absurd ofSecond (apart c ofFirst)

theorem PrefersLongest.optional {expression : Regular} (prefers : expression.PrefersLongest) :
    expression.optional.PrefersLongest := by
  refine prefers.either prefersLongest_empty fun text way _ other member => ?_
  obtain rfl := List.mem_singleton.1 member
  exact Nat.zero_le _

/-- Behind a single character an expression still prefers the longest way. -/
theorem PrefersLongest.behindOne {second : Regular} (prefers : second.PrefersLongest)
    (accept : Char → Bool) : (Regular.sequence (one accept) second).PrefersLongest := by
  refine (prefersLongest_one accept).sequence prefers ?_
  intro text way first other member less
  obtain ⟨-, c, taken, -⟩ := mem_ways_iff.1 member
  obtain ⟨-, d, wayTaken, -⟩ := mem_ways_iff.1 (mem_ways_of_first? first)
  rw [taken, wayTaken] at less
  exact absurd less (Nat.lt_irrefl _)

theorem prefersLongest_oneOrMore (accept : Char → Bool) : (oneOrMore accept).PrefersLongest :=
  (prefersLongest_many accept).behindOne accept

theorem prefersLongest_word : ∀ expected : List Char, (word expected).PrefersLongest
  | [] => prefersLongest_empty
  | c :: rest => (prefersLongest_word rest).behindOne (· == c)

/-! ## The longest prefix that is described -/

/-- Whether a text is the longest prefix of another that an expression describes. -/
structure Longest (expression : Regular) (text taken : List Char) : Prop where
  isPrefix : taken <+: text
  accepted : expression.Accepts taken
  longest : ∀ other, other <+: text → expression.Accepts other → other.length ≤ taken.length

/-- Nothing can be put behind the longest prefix that is described. -/
theorem Longest.not_accepts_append {expression : Regular} {taken rest more : List Char}
    (longest : expression.Longest (taken ++ rest) taken) (nonempty : more ≠ [])
    (follows : more <+: rest) : ¬expression.Accepts (taken ++ more) := by
  intro accepted
  have atMost := longest.longest _ ((List.prefix_append_right_inj taken).2 follows) accepted
  rw [List.length_append] at atMost
  exact nonempty (List.eq_nil_of_length_eq_zero (by omega))

/-- What the first way takes is the longest prefix that is described. -/
theorem PrefersLongest.longest {expression : Regular} (prefers : expression.PrefersLongest)
    {text taken rest : List Char} (first : expression.first? text = some (taken, rest)) :
    expression.Longest text taken := by
  obtain ⟨split, accepted⟩ := mem_ways_iff.1 (mem_ways_of_first? first)
  refine ⟨⟨rest, split.symm⟩, accepted, ?_⟩
  rintro other ⟨left, rfl⟩ otherAccepted
  exact prefers _ _ first (other, left) (mem_ways_iff.2 ⟨rfl, otherAccepted⟩)

theorem exists_first? {expression : Regular} {text other : List Char}
    (isPrefix : other <+: text) (accepted : expression.Accepts other) :
    ∃ taken rest, expression.first? text = some (taken, rest) := by
  obtain ⟨left, rfl⟩ := isPrefix
  have member : (other, left) ∈ expression.ways (other ++ left) :=
    mem_ways_iff.2 ⟨rfl, accepted⟩
  cases found : expression.first? (other ++ left) with
  | none =>
      rw [List.head?_eq_none_iff.1 found] at member
      exact absurd member List.not_mem_nil
  | some way => exact ⟨way.1, way.2, rfl⟩

/-! ## Behind white space -/

/-- What an expression takes of a text behind leading white space. The search leaves
some of the white space to the expression when nothing else is left to try. -/
def captured? (expression : Regular) (text : List Char) : Option (List Char) :=
  ((many isBlank).ways text).findSome? fun lead => (expression.first? lead.2).map Prod.fst

/-- An expression that no white space can begin starts where all of it is over. -/
theorem captured?_eq {expression : Regular} (begins : expression.Begins (isBlank · = false))
    (text : List Char) :
    expression.captured? text = (expression.first? (dropBlank text)).map Prod.fst := by
  unfold captured? ways
  induction text with
  | nil =>
      rw [runs, List.findSome?_singleton]
      rfl
  | cons c rest ih =>
      rw [runs, List.findSome?_append, List.findSome?_singleton, dropBlank]
      cases blank : isBlank c with
      | false =>
          rw [List.dropWhile_cons_of_neg (by simp [blank])]
          rfl
      | true =>
          have refused : expression.first? (c :: rest) = none := by
            cases found : expression.first? (c :: rest) with
            | none => rfl
            | some way =>
                obtain ⟨split, accepted⟩ := mem_ways_iff.1 (mem_ways_of_first? found)
                obtain ⟨head, more, taken, notBlank⟩ := begins _ accepted
                rw [taken, List.cons_append] at split
                rw [(List.cons.inj split).1, notBlank] at blank
                cases blank
          rw [if_pos rfl, List.findSome?_map, refused, Option.map_none, Option.or_none,
            List.dropWhile_cons_of_pos blank]
          exact ih

/-- Such an expression takes something if it describes some prefix of the text behind
its white space. -/
theorem captured?_isSome_iff {expression : Regular}
    (begins : expression.Begins (isBlank · = false)) (text : List Char) :
    (expression.captured? text).isSome = true ↔
      ∃ front, front <+: dropBlank text ∧ expression.Accepts front := by
  rw [captured?_eq begins, Option.isSome_map]
  constructor
  · intro some
    obtain ⟨⟨front, rest⟩, found⟩ := Option.isSome_iff_exists.1 some
    obtain ⟨split, accepted⟩ :=
      mem_ways_iff.1 (mem_ways_of_first? found)
    exact ⟨front, ⟨rest, split.symm⟩, accepted⟩
  · rintro ⟨front, follows, accepted⟩
    obtain ⟨taken, rest, found⟩ := exists_first? follows accepted
    rw [found, Option.isSome_some]

end Regular

end Criteria.Text
