/-
Module: SqlMapper.Document.Build
Purpose: Documents from trees of elements, and from mapper texts.
Main exports: buildNode, buildNodes, statementsOfAll, Document.ofContents, Document.parse
-/
import SqlMapper.Document.Basic
import SqlMapper.Markup.Reader

namespace SqlMapper.Document

open SqlMapper.Markup SqlMapper.Text

/-!
Every outermost element with an `id` attribute is a statement; elements without
one only group what they hold. Inside a statement the elements named after a
directive are built as that directive. One that lacks what it needs becomes an
invalid node, and the rest of the document stays usable. The branches of a
choice mean nothing elsewhere.
-/

/-- The value of an attribute that a tag has to have. -/
def requiredAttribute (tag : String) (attributes : List (String × String)) (name : String) :
    Except MarkupError String :=
  match attribute? attributes name with
  | some value => .ok value
  | none => .error (.missingAttribute tag name)

/-- A node, or the invalid node of a tag. -/
def nodeOrInvalid (tag : String) : Except MarkupError Node → Node
  | .ok node => node
  | .error error => .invalid tag error

/-- The choice of branches and a last resort: there has to be at least one
branch and exactly one last resort. -/
def chooseNode : List (Branch Node) × Option (List Node) → Except MarkupError Node
  | ([], _) => .error (.invalidChoose .noWhen)
  | (_ :: _, none) => .error (.invalidChoose .noOtherwise)
  | (when :: whens, some otherwise) => .ok (.choose (when :: whens) otherwise)

mutual

/-- The node of a tree. -/
def buildNode : Content → Node
  | .text characters => .text characters
  | .element tag attributes children =>
      match Directive.ofName? tag with
      | some .ifTest =>
          nodeOrInvalid tag <| (requiredAttribute tag attributes "test").map fun test =>
            .ifTest test (buildNodes children)
      | some .choose => nodeOrInvalid tag (buildBranches none children >>= chooseNode)
      | some .isNotNull =>
          nodeOrInvalid tag <| (requiredAttribute tag attributes "property").map fun property =>
            .isNotNull property (buildNodes children)
      | some .inclusion =>
          nodeOrInvalid tag <| (requiredAttribute tag attributes "refid").map .inclusion
      | some .whereBlock => .whereBlock (buildNodes children)
      | some .when | some .otherwise | none => .unsupported tag

/-- The nodes of trees, one for each. -/
def buildNodes : List Content → List Node
  | [] => []
  | content :: rest => buildNode content :: buildNodes rest

/-- The branches and the last resort in a choice, after a last resort that was
met before; the first child that cannot stand there is the fault. -/
def buildBranches (otherwise : Option (List Node)) :
    List Content → Except MarkupError (List (Branch Node) × Option (List Node))
  | [] => .ok ([], otherwise)
  | .text characters :: rest =>
      let text := trim characters.toList
      if text.isEmpty then buildBranches otherwise rest
      else .error (.invalidChoose (.strayText (String.ofList text)))
  | .element tag attributes children :: rest =>
      match Directive.ofName? tag with
      | some .when =>
          match requiredAttribute tag attributes "test" with
          | .error e => .error e
          | .ok test =>
              (buildBranches otherwise rest).map fun (whens, otherwise) =>
                (⟨test, buildNodes children⟩ :: whens, otherwise)
      | some .otherwise =>
          if otherwise.isSome then .error (.invalidChoose .secondOtherwise)
          else buildBranches (some (buildNodes children)) rest
      | _ => .error (.invalidChoose (.unexpected tag))

end

mutual

/-- The statements of a tree, in order. -/
def statementsOf : Content → List Statement
  | .text _ => []
  | .element tag attributes children =>
      match attribute? attributes "id" with
      | some id => [⟨tag, id, buildNodes children⟩]
      | none => statementsOfAll children

/-- The statements of trees, in order. -/
def statementsOfAll : List Content → List Statement
  | [] => []
  | content :: rest => statementsOf content ++ statementsOfAll rest

end

theorem statementsOfAll_append (contents others : List Content) :
    statementsOfAll (contents ++ others) = statementsOfAll contents ++ statementsOfAll others := by
  induction contents with
  | nil => rw [statementsOfAll, List.nil_append, List.nil_append]
  | cons content rest ih =>
    rw [List.cons_append, statementsOfAll, statementsOfAll, ih, List.append_assoc]

theorem statementsOfAll_reverse_cons (content : Content) (before : List Content) :
    statementsOfAll (content :: before).reverse
      = statementsOfAll before.reverse ++ statementsOf content := by
  rw [List.reverse_cons, statementsOfAll_append, statementsOfAll, statementsOfAll, List.append_nil]

/-- Text outside of statements is no statement. -/
theorem statementsOfAll_flush (text : List Char) (siblings : List Content) :
    statementsOfAll (Reader.flush text siblings).reverse = statementsOfAll siblings.reverse := by
  unfold Reader.flush
  split
  · rfl
  · rw [statementsOfAll_reverse_cons, statementsOf, List.append_nil]

/-- An element without attributes only groups what it holds. -/
theorem statementsOf_plain (name : String) (children : List Content) :
    statementsOf (.element name [] children) = statementsOfAll children := by
  rw [statementsOf]
  rfl

/-- The statements without those whose id another statement has before them. -/
def firstOfEachId (statements : List Statement) : List Statement :=
  (statements.foldl
    (fun kept s => if kept.any (·.id == s.id) then kept else s :: kept) []).reverse

/-- The document of trees of elements. -/
def ofContents (contents : List Content) : SqlMapper.Document :=
  ⟨firstOfEachId (statementsOfAll contents)⟩

/-- Read a mapper text. -/
def parse (text : String) : Except MarkupError SqlMapper.Document :=
  (readMarkup text).map ofContents

end SqlMapper.Document
