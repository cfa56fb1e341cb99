import DeltaRobot.Json.Decode
import DeltaRobot.Proofs.Json.Scanning

/-!
Contract: which texts a tree is written as.

A whole tree has one row of tokens: brackets around its elements, commas between them, and a colon
behind every name. Reading a row of tokens ends with a whole tree exactly if it is the row of that
tree. What is read so far is a row of tokens too, and every step of the reading adds one token to
it; a step that meets damage ends with a tree that is not whole, and nothing makes it whole again.

Owns: whole trees, their tokens, and the texts that are read as them.
Does not own: what a tree means for a type.
-/

namespace DeltaRobot.Json

/-! ### Whole trees -/

theorem Ending.error?_eq_none_iff {damaged : List TextUnit → Fault → DecodeError}
    {ending : Ending} : ending.error? damaged = none ↔ ending = .closed := by
  cases ending with
  | nameless token =>
      cases token with
      | none => simp [Ending.error?]
      | some token => cases token <;> simp [Ending.error?]
  | _ => simp [Ending.error?]

namespace Tree

/-- No damage is anywhere in the tree, so it can be passed over. -/
def Whole (tree : Tree) : Prop := Decoder.skip? tree = none

theorem skipItems?_eq_none_iff {items : List Tree} :
    Decoder.skipItems? items = none ↔ ∀ item ∈ items, item.Whole := by
  induction items with
  | nil => exact iff_of_true rfl (List.forall_mem_nil _)
  | cons item items inductionHypothesis =>
      change (Decoder.skip? item).or (Decoder.skipItems? items) = none ↔ _
      rw [Option.or_eq_none_iff, inductionHypothesis, List.forall_mem_cons, Whole]

theorem skipMembers?_eq_none_iff {members : List (Name × Tree)} :
    Decoder.skipMembers? members = none ↔ ∀ member ∈ members, member.2.Whole := by
  induction members with
  | nil => exact iff_of_true rfl (List.forall_mem_nil _)
  | cons member members inductionHypothesis =>
      change (Decoder.skip? member.2).or (Decoder.skipMembers? members) = none ↔ _
      rw [Option.or_eq_none_iff, inductionHypothesis, List.forall_mem_cons, Whole]

@[simp]
theorem whole_null : Whole .null := rfl

@[simp]
theorem whole_boolean (value : Bool) : Whole (.boolean value) := rfl

@[simp]
theorem whole_number (numeral : Numeral) : Whole (.number numeral) := rfl

@[simp]
theorem whole_text (units : List TextUnit) : Whole (.text units) := rfl

@[simp]
theorem not_whole_absent : ¬ Whole .absent := nofun

@[simp]
theorem not_whole_broken (fault : Fault) : ¬ Whole (.broken fault) := nofun

@[simp]
theorem not_whole_brokenText (units : List TextUnit) (fault : Fault) :
    ¬ Whole (.brokenText units fault) := nofun

@[simp]
theorem whole_array {items : List Tree} {ending : Ending} :
    Whole (.array items ending) ↔ (∀ item ∈ items, item.Whole) ∧ ending = .closed := by
  change (Decoder.skipItems? items).or (ending.error? _) = none ↔ _
  rw [Option.or_eq_none_iff, skipItems?_eq_none_iff, Ending.error?_eq_none_iff]

@[simp]
theorem whole_object {members : List (Name × Tree)} {ending : Ending} :
    Whole (.object members ending) ↔
      (∀ member ∈ members, member.2.Whole) ∧ ending = .closed := by
  change (Decoder.skipMembers? members).or (ending.error? _) = none ↔ _
  rw [Option.or_eq_none_iff, skipMembers?_eq_none_iff, Ending.error?_eq_none_iff]

/-! ### Tokens -/

/-- Rows of tokens with commas between them. -/
def separated (rows : List (List Token)) : List Token := [Token.comma].intercalate rows

mutual

/-- The tokens that a whole tree is written with. -/
def tokens : Tree → List Token
  | .absent => []
  | .broken fault => [.broken fault]
  | .brokenText units fault => [.brokenText units fault]
  | .null => [.null]
  | .boolean value => [.boolean value]
  | .number numeral => [.number numeral]
  | .text units => [.text units]
  | .array items _ => .openArray :: (separated (itemTokens items) ++ [.closeArray])
  | .object members _ => .openObject :: (separated (memberTokens members) ++ [.closeObject])

def itemTokens : List Tree → List (List Token)
  | [] => []
  | item :: items => item.tokens :: itemTokens items

def memberTokens : List (Name × Tree) → List (List Token)
  | [] => []
  | (name, value) :: members => (.text name :: .colon :: value.tokens) :: memberTokens members

end

theorem itemTokens_eq_map (items : List Tree) : itemTokens items = items.map tokens := by
  induction items with
  | nil => rfl
  | cons item items inductionHypothesis => rw [itemTokens, inductionHypothesis, List.map_cons]

theorem memberTokens_eq_map (members : List (Name × Tree)) :
    memberTokens members =
      members.map (fun member => .text member.1 :: .colon :: member.2.tokens) := by
  induction members with
  | nil => rfl
  | cons member members inductionHypothesis =>
      rw [memberTokens, inductionHypothesis, List.map_cons]

theorem separated_cons (row : List Token) {rows : List (List Token)} (others : rows ≠ []) :
    separated (row :: rows) = row ++ .comma :: separated rows := by
  rw [separated, List.intercalate_cons_of_ne_nil others, List.append_assoc]
  rfl

/-- The first row comes first. -/
theorem exists_separated_eq (row : List Token) (rows : List (List Token)) :
    ∃ others, separated (row :: rows) = row ++ others := by
  by_cases last : rows = []
  · exact ⟨[], by rw [last, separated, List.intercalate_singleton, List.append_nil]⟩
  · exact ⟨_, separated_cons row last⟩

theorem separated_append_singleton (rows : List (List Token)) (last : List Token) :
    separated (rows ++ [last]) = rows.flatMap (fun row => row ++ [.comma]) ++ last := by
  induction rows with
  | nil => simp [separated, List.intercalate]
  | cons row rows inductionHypothesis =>
      rw [List.cons_append, separated_cons row (by simp), inductionHypothesis]
      simp

end Tree

/-! ### What is read so far -/

/-- The tokens of an unfinished list. -/
def Frame.tokens : Frame → List Token
  | .array items =>
      .openArray :: (Tree.itemTokens items.reverse).flatMap (fun row => row ++ [.comma])
  | .object members name =>
      .openObject :: (Tree.memberTokens members.reverse).flatMap (fun row => row ++ [.comma]) ++
        [.text name, .colon]

/-- The tokens of the unfinished lists around a place, the innermost first. -/
def Frame.pending : List Frame → List Token
  | [] => []
  | frame :: frames => pending frames ++ frame.tokens

/-- The tokens behind those of the unfinished lists. -/
def Expectation.tokens : Expectation → List Token
  | .value => []
  | .firstItem => [.openArray]
  | .firstName => [.openObject]
  | .name members =>
      .openObject :: (Tree.memberTokens members.reverse).flatMap (fun row => row ++ [.comma])
  | .colon members units =>
      .openObject :: (Tree.memberTokens members.reverse).flatMap (fun row => row ++ [.comma]) ++
        [.text units]
  | .separator tree => tree.tokens

namespace Document

theorem tokens_of_startValue {after : Expectation} {frames others : List Frame} {token : Token}
    (stepped : startValue frames token = .next after others) :
    others = frames ∧ after.tokens = [token] := by
  unfold startValue at stepped
  split at stepped <;> cases stepped <;> exact ⟨rfl, rfl⟩

theorem tokens_of_startMember {members : List (Name × Tree)} {after : Expectation}
    {frames others : List Frame} {token : Token}
    (stepped : startMember members frames token = .next after others) :
    others = frames ∧ after.tokens = (Expectation.name members).tokens ++ [token] := by
  unfold startMember at stepped
  split at stepped
  · cases stepped
    exact ⟨rfl, rfl⟩
  · cases stepped

theorem tokens_of_continueList {frame : Frame} {tree : Tree} {after : Expectation}
    {frames others : List Frame} {token : Token}
    (stepped : continueList frame frames tree token = .next after others) :
    Frame.pending others ++ after.tokens =
      Frame.pending frames ++ frame.tokens ++ tree.tokens ++ [token] := by
  cases frame with
  | array items =>
      cases token <;> cases stepped <;>
        simp [Frame.pending, Frame.tokens, Expectation.tokens, Tree.tokens,
          Tree.itemTokens_eq_map, Tree.separated_append_singleton]
  | object members name =>
      cases token <;> cases stepped <;>
        simp [Frame.tokens, Expectation.tokens, Tree.tokens, Tree.memberTokens_eq_map,
          Tree.separated_append_singleton]

/-- A step adds its token to what is read. -/
theorem tokens_of_next {expectation after : Expectation} {frames others : List Frame}
    {token : Token} (stepped : step expectation frames token = .next after others) :
    Frame.pending others ++ after.tokens =
      Frame.pending frames ++ expectation.tokens ++ [token] := by
  unfold step at stepped
  split at stepped
  · obtain ⟨rfl, same⟩ := tokens_of_startValue stepped
    rw [same]
    simp [Expectation.tokens]
  · cases stepped
    simp [Expectation.tokens, Tree.tokens, Tree.itemTokens, Tree.separated, List.intercalate]
  · obtain ⟨rfl, same⟩ := tokens_of_startValue stepped
    rw [same]
    simp [Expectation.tokens, Frame.pending, Frame.tokens, Tree.itemTokens]
  · cases stepped
    simp [Expectation.tokens, Tree.tokens, Tree.memberTokens, Tree.separated, List.intercalate]
  · obtain ⟨rfl, same⟩ := tokens_of_startMember stepped
    rw [same]
    simp [Expectation.tokens, Tree.memberTokens]
  · obtain ⟨rfl, same⟩ := tokens_of_startMember stepped
    rw [same, List.append_assoc]
  · cases stepped
    simp [Expectation.tokens, Frame.pending, Frame.tokens]
  · cases stepped
  · rw [tokens_of_continueList stepped]
    rfl
  · cases stepped

/-! ### Damage -/

theorem not_whole_finish (frame : Frame) (tree : Tree) {ending : Ending}
    (unclosed : ending ≠ .closed) : ¬ (frame.finish tree ending).Whole := by
  cases frame <;> simp [Frame.finish, Frame.add, unclosed]

/-- Damage inside an unfinished list stays. -/
theorem not_whole_unwind {tree : Tree} (damaged : ¬ tree.Whole) (frames : List Frame) :
    ¬ (tree.unwind frames).Whole := by
  induction frames generalizing tree with
  | nil => exact damaged
  | cons frame frames inductionHypothesis =>
      exact inductionHypothesis (not_whole_finish frame tree (by simp))

theorem not_whole_of_startValue {frames : List Frame} {token : Token} {root : Tree}
    (stepped : startValue frames token = .damaged root) : ¬ root.Whole := by
  unfold startValue at stepped
  split at stepped <;> cases stepped <;> exact not_whole_unwind (by simp) frames

theorem not_whole_of_startMember {members : List (Name × Tree)} {frames : List Frame}
    {token : Token} {root : Tree}
    (stepped : startMember members frames token = .damaged root) : ¬ root.Whole := by
  unfold startMember at stepped
  split at stepped <;> cases stepped
  exact not_whole_unwind (by simp) frames

theorem not_whole_of_continueList {frame : Frame} {frames : List Frame} {tree : Tree}
    {token : Token} {root : Tree}
    (stepped : continueList frame frames tree token = .damaged root) : ¬ root.Whole := by
  unfold continueList at stepped
  split at stepped <;> cases stepped
  exact not_whole_unwind (not_whole_finish frame tree (by simp)) frames

/-- A step that ends the reading leaves damage, unless the root was complete before. -/
theorem not_whole_of_damaged {expectation : Expectation} {frames : List Frame} {token : Token}
    {root : Tree} (stepped : step expectation frames token = .damaged root)
    (incomplete : ∀ tree, expectation = .separator tree → frames ≠ []) : ¬ root.Whole := by
  unfold step at stepped
  split at stepped
  · exact not_whole_of_startValue stepped
  · cases stepped
  · exact not_whole_of_startValue stepped
  · cases stepped
  · exact not_whole_of_startMember stepped
  · exact not_whole_of_startMember stepped
  · cases stepped
  · cases stepped
    exact not_whole_unwind (not_whole_finish _ _ (by simp)) _
  · exact not_whole_of_continueList stepped
  · exact absurd rfl (incomplete _ rfl)

/-- So does the end of the text. -/
theorem not_whole_atEnd {expectation : Expectation} {frames : List Frame}
    (incomplete : ∀ tree, expectation = .separator tree → frames ≠ []) :
    ¬ (atEnd expectation frames).Whole := by
  unfold atEnd
  split
  · exact not_whole_unwind (by simp) _
  · exact not_whole_unwind (by simp) _
  · exact not_whole_unwind (by simp) _
  · exact not_whole_unwind (by simp) _
  · exact not_whole_unwind (by simp) _
  · cases frames with
    | nil => exact absurd rfl (incomplete _ rfl)
    | cons frame frames => exact not_whole_unwind (not_whole_finish _ _ (by simp)) _

/-! ### Reading -/

/-- A reading that ends with a whole tree has read the tokens of that tree. -/
theorem tokens_of_read {expectation : Expectation} {frames : List Frame} {row rest : List Token}
    {tree : Tree} (read : Document.read expectation frames row = ⟨tree, rest⟩)
    (whole : tree.Whole) :
    Frame.pending frames ++ expectation.tokens ++ row = tree.tokens ++ rest := by
  fun_induction Document.read expectation frames row with
  | case1 tree rest =>
      cases read
      rfl
  | case2 expectation frames incomplete =>
      cases read
      exact absurd whole (not_whole_atEnd incomplete)
  | case3 expectation frames token row incomplete after others stepped inductionHypothesis =>
      rw [← inductionHypothesis read, tokens_of_next stepped]
      simp
  | case4 expectation frames token row incomplete root stepped =>
      cases read
      exact absurd whole (not_whole_of_damaged stepped incomplete)

/-- The first element of an array is read like the others. -/
theorem read_firstItem (item : Tree) (items : List Tree) (whole : item.Whole)
    (frames : List Frame) (rest : List Token) :
    Document.read .firstItem frames
        (Tree.separated (Tree.itemTokens (item :: items)) ++ rest) =
      Document.read .value (.array [] :: frames)
        (Tree.separated (Tree.itemTokens (item :: items)) ++ rest) := by
  obtain ⟨others, split⟩ := Tree.exists_separated_eq item.tokens (Tree.itemTokens items)
  rw [Tree.itemTokens, split]
  -- Only a closing bracket makes a difference, and no value starts with one.
  cases item <;> first | rfl | simp at whole

/-- So is the first name of an object. -/
theorem read_firstName (member : Name × Tree) (members : List (Name × Tree))
    (frames : List Frame) (rest : List Token) :
    Document.read .firstName frames
        (Tree.separated (Tree.memberTokens (member :: members)) ++ rest) =
      Document.read (.name []) frames
        (Tree.separated (Tree.memberTokens (member :: members)) ++ rest) := by
  obtain ⟨others, split⟩ := Tree.exists_separated_eq
    (.text member.1 :: .colon :: member.2.tokens) (Tree.memberTokens members)
  rw [Tree.memberTokens, split]
  rfl

mutual

/-- The tokens of a whole tree are read as the tree. -/
theorem read_tokens (tree : Tree) (whole : tree.Whole) (frames : List Frame) (rest : List Token) :
    Document.read .value frames (tree.tokens ++ rest) =
      Document.read (.separator tree) frames rest := by
  match tree with
  | .absent | .broken _ | .brokenText _ _ => simp at whole
  | .null | .boolean _ | .number _ | .text _ => rfl
  | .array items ending =>
      obtain ⟨wholeItems, rfl⟩ := Tree.whole_array.1 whole
      have all := read_itemTokens items wholeItems [] frames rest
      cases items with
      | nil => rfl
      | cons item items =>
          have first := read_firstItem item items (wholeItems item List.mem_cons_self) frames
            (.closeArray :: rest)
          refine Eq.trans ?_ (first.trans (all (List.cons_ne_nil item items)))
          simp [Tree.tokens, Document.read, step, startValue]
  | .object members ending =>
      obtain ⟨wholeMembers, rfl⟩ := Tree.whole_object.1 whole
      have all := read_memberTokens members wholeMembers [] frames rest
      cases members with
      | nil => rfl
      | cons member members =>
          have first := read_firstName member members frames (.closeObject :: rest)
          refine Eq.trans ?_ (first.trans (all (List.cons_ne_nil member members)))
          simp [Tree.tokens, Document.read, step, startValue]

theorem read_itemTokens (items : List Tree) (whole : ∀ item ∈ items, item.Whole)
    (before : List Tree) (frames : List Frame) (rest : List Token) (nonempty : items ≠ []) :
    Document.read .value (.array before :: frames)
        (Tree.separated (Tree.itemTokens items) ++ .closeArray :: rest) =
      Document.read (.separator (.array (before.reverse ++ items) .closed)) frames rest := by
  match items with
  | [] => exact absurd rfl nonempty
  | item :: items =>
      have first := read_tokens item (whole item List.mem_cons_self) (.array before :: frames)
      have others := read_itemTokens items
        (fun other member => whole other (List.mem_cons_of_mem _ member)) (item :: before) frames
        rest
      by_cases last : items = []
      · rw [last, Tree.itemTokens, Tree.itemTokens, Tree.separated, List.intercalate_singleton,
          first]
        simp [Document.read, step, continueList, Frame.add]
      · rw [Tree.itemTokens, Tree.separated_cons _ (by simpa [Tree.itemTokens_eq_map] using last),
          List.append_assoc, first]
        rw [List.reverse_cons, List.append_assoc] at others
        exact others last

theorem read_memberTokens (members : List (Name × Tree))
    (whole : ∀ member ∈ members, member.2.Whole)
    (before : List (Name × Tree)) (frames : List Frame) (rest : List Token)
    (nonempty : members ≠ []) :
    Document.read (.name before) frames
        (Tree.separated (Tree.memberTokens members) ++ .closeObject :: rest) =
      Document.read (.separator (.object (before.reverse ++ members) .closed)) frames rest := by
  match members with
  | [] => exact absurd rfl nonempty
  | (name, tree) :: members =>
      have first := read_tokens tree (whole _ List.mem_cons_self) (.object before name :: frames)
      have others := read_memberTokens members
        (fun other member => whole other (List.mem_cons_of_mem _ member))
        ((name, tree) :: before) frames rest
      by_cases last : members = []
      · rw [last, Tree.memberTokens, Tree.memberTokens, Tree.separated,
          List.intercalate_singleton]
        refine (first (.closeObject :: rest)).trans ?_
        simp [Document.read, step, continueList, Frame.add]
      · rw [Tree.memberTokens,
          Tree.separated_cons _ (by simpa [Tree.memberTokens_eq_map] using last),
          List.append_assoc]
        rw [List.reverse_cons, List.append_assoc] at others
        exact (first _).trans (others last)

end

/-- A row of tokens is read as a whole tree exactly if it starts with the tokens of the tree. -/
theorem read_eq_iff {tree : Tree} (whole : tree.Whole) {row rest : List Token} :
    Document.read .value [] row = ⟨tree, rest⟩ ↔ row = tree.tokens ++ rest := by
  constructor
  · intro read
    have same := tokens_of_read read whole
    rwa [Frame.pending, Expectation.tokens, List.append_nil, List.nil_append] at same
  · rintro rfl
    rw [read_tokens tree whole]
    cases rest <;> rfl

end Document

/-! ### Texts -/

/-- The text is one undamaged value and nothing else, and this is its tree. -/
structure Reads (text : String) (tree : Tree) : Prop where
  whole : tree.Whole
  read : Document.ofText text = ⟨tree, []⟩

theorem reads_iff {text : String} {tree : Tree} :
    Reads text tree ↔ tree.Whole ∧ tokens text.toList = tree.tokens := by
  constructor
  · rintro ⟨whole, read⟩
    rw [Document.ofText, Document.read_eq_iff whole, List.append_nil] at read
    exact ⟨whole, read⟩
  · rintro ⟨whole, same⟩
    refine ⟨whole, ?_⟩
    rw [Document.ofText, Document.read_eq_iff whole, List.append_nil]
    exact same

/-- A text has one tree. -/
theorem Reads.unique {text : String} {tree other : Tree} (first : Reads text tree)
    (second : Reads text other) : tree = other := by
  have same := first.read.symm.trans second.read
  cases same
  rfl

/-! ### Tokens of whole trees -/

namespace Tree

theorem eq_comma_or_mem_of_mem_separated {token : Token} {rows : List (List Token)}
    (member : token ∈ separated rows) : token = .comma ∨ ∃ row ∈ rows, token ∈ row := by
  induction rows with
  | nil => cases member
  | cons row rows inductionHypothesis =>
      by_cases last : rows = []
      · rw [last, separated, List.intercalate_singleton] at member
        exact .inr ⟨row, List.mem_cons_self, member⟩
      · rw [separated_cons row last, List.mem_append, List.mem_cons] at member
        obtain inRow | isComma | inOthers := member
        · exact .inr ⟨row, List.mem_cons_self, inRow⟩
        · exact .inl isComma
        · refine (inductionHypothesis inOthers).imp_right ?_
          rintro ⟨other, isOther, inOther⟩
          exact ⟨other, List.mem_cons_of_mem _ isOther, inOther⟩

theorem isWhole_of_mem_separated {rows : List (List Token)}
    (whole : ∀ row ∈ rows, ∀ token ∈ row, token.isWhole = true) {token : Token}
    (member : token ∈ separated rows) : token.isWhole = true := by
  obtain rfl | ⟨row, isRow, inRow⟩ := eq_comma_or_mem_of_mem_separated member
  · rfl
  · exact whole row isRow token inRow

mutual

/-- No token of a whole tree is damaged. -/
theorem isWhole_of_mem_tokens (tree : Tree) (whole : tree.Whole) :
    ∀ token ∈ tree.tokens, token.isWhole = true := by
  match tree with
  | .absent | .broken _ | .brokenText _ _ => simp at whole
  | .null | .boolean _ | .number _ | .text _ => simp [tokens, Token.isWhole]
  | .array items _ =>
      have inside := isWhole_of_mem_itemTokens items (whole_array.1 whole).1
      simp only [tokens, List.forall_mem_cons, List.forall_mem_append]
      exact ⟨rfl, fun token => isWhole_of_mem_separated inside, rfl, by simp⟩
  | .object members _ =>
      have inside := isWhole_of_mem_memberTokens members (whole_object.1 whole).1
      simp only [tokens, List.forall_mem_cons, List.forall_mem_append]
      exact ⟨rfl, fun token => isWhole_of_mem_separated inside, rfl, by simp⟩

theorem isWhole_of_mem_itemTokens (items : List Tree) (whole : ∀ item ∈ items, item.Whole) :
    ∀ row ∈ itemTokens items, ∀ token ∈ row, token.isWhole = true := by
  match items with
  | [] => simp [itemTokens]
  | item :: items =>
      obtain ⟨first, others⟩ := List.forall_mem_cons.1 whole
      rw [itemTokens, List.forall_mem_cons]
      exact ⟨isWhole_of_mem_tokens item first, isWhole_of_mem_itemTokens items others⟩

theorem isWhole_of_mem_memberTokens (members : List (Name × Tree))
    (whole : ∀ member ∈ members, member.2.Whole) :
    ∀ row ∈ memberTokens members, ∀ token ∈ row, token.isWhole = true := by
  match members with
  | [] => simp [memberTokens]
  | (name, tree) :: members =>
      obtain ⟨first, others⟩ := List.forall_mem_cons.1 whole
      rw [memberTokens, List.forall_mem_cons, List.forall_mem_cons, List.forall_mem_cons]
      exact ⟨⟨rfl, rfl, isWhole_of_mem_tokens tree first⟩,
        isWhole_of_mem_memberTokens members others⟩

end

end Tree

end DeltaRobot.Json
