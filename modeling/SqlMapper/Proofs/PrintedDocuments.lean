/-
Module: SqlMapper.Proofs.PrintedDocuments
Purpose: Parsing a printed document gives the document.
Main exports: treeOf, treesOf, readsAs_printNodes, buildNodes_treesOf, parse_print
-/
import SqlMapper.Proofs.StatementIds
import SqlMapper.Proofs.WrittenMarkup

namespace SqlMapper.Document

open SqlMapper.Markup SqlMapper.Markup.Reader SqlMapper.Text

/-!
Between a document and its text stand the trees of its nodes. Printing and
reading meet there: a node is written such that it is read as its tree, and the
node is what is built of the tree. Each half goes through the nodes once.
-/

mutual

/-- The tree that a written node is read as. -/
def treeOf : Node → Content
  | .text characters => .text characters
  | .ifTest test children => .element Directive.ifTest.name [("test", test)] (treesOf children)
  | .choose whens otherwise =>
      .element Directive.choose.name []
        (branchTrees whens ++ [.element Directive.otherwise.name [] (treesOf otherwise)])
  | .isNotNull property children =>
      .element Directive.isNotNull.name [("property", property)] (treesOf children)
  | .inclusion refid => .element Directive.inclusion.name [("refid", refid)] []
  | .whereBlock children => .element Directive.whereBlock.name [] (treesOf children)
  | .unsupported tag => .element tag [] []
  | .invalid tag _ => .element tag [] []

/-- The trees that written nodes are read as. -/
def treesOf : List Node → List Content
  | [] => []
  | node :: rest => treeOf node :: treesOf rest

/-- The trees that the written branches of a choice are read as. -/
def branchTrees : List (Branch Node) → List Content
  | [] => []
  | ⟨test, children⟩ :: rest =>
      .element Directive.when.name [("test", test)] (treesOf children) :: branchTrees rest

end

/-- The tree that a written statement is read as. -/
def Statement.tree (s : Statement) : Content := .element s.kind [("id", s.id)] (treesOf s.body)

/-- Whether a node alone, whatever it holds, can be written. -/
def Node.isWritable : Node → Bool
  | .unsupported tag => isElementName tag
  | .invalid .. => false
  | _ => true

theorem isElementName_name (d : Directive) : isElementName d.name = true := by
  cases d <;> decide

theorem treesOf_ne_text {nodes : List Node} (h : startsWithText nodes = false) (other : String)
    (more : List Content) : treesOf nodes ≠ .text other :: more := by
  cases nodes with
  | nil => simp [treesOf]
  | cons node rest =>
    cases node with
    | text characters => cases h
    | _ => simp [treesOf, treeOf]

/-! ### Reading what is written -/

mutual

theorem readsAsElement_printNode : ∀ {node : Node}, startsWithText [node] = false →
    (∀ below ∈ node.walk, below.isWritable = true) → node.isNormal = true →
    ReadsAsElement (printNode node) (treeOf node)
  | .text _, isText, _, _ => nomatch isText
  | .ifTest test children, _, written, normal => by
      rw [Node.walk, List.forall_mem_cons] at written
      rw [printNode, treeOf]
      exact readsAsElement_encloseWith test (isElementName_name _) (by decide)
        (readsAs_printNodes written.2 (by rwa [Node.isNormal] at normal))
  | .choose whens otherwise, _, written, normal => by
      rw [Node.walk, List.forall_mem_cons, List.forall_mem_append] at written
      simp only [Node.isNormal, Bool.and_eq_true] at normal
      have lastResort := readsAs_cons (readsAsElement_enclose (isElementName_name .otherwise)
        (readsAs_printNodes written.2.2 normal.2)) readsAs_nil
      rw [List.append_nil] at lastResort
      rw [printNode, treeOf]
      exact readsAsElement_enclose (isElementName_name _)
        (readsAs_printBranches written.2.1 normal.1.2 lastResort)
  | .isNotNull property children, _, written, normal => by
      rw [Node.walk, List.forall_mem_cons] at written
      rw [printNode, treeOf]
      exact readsAsElement_encloseWith property (isElementName_name _) (by decide)
        (readsAs_printNodes written.2 (by rwa [Node.isNormal] at normal))
  | .inclusion refid, _, _, _ => by
      rw [printNode, treeOf]
      exact readsAsElement_encloseWith refid (isElementName_name _) (by decide) readsAs_nil
  | .whereBlock children, _, written, normal => by
      rw [Node.walk, List.forall_mem_cons] at written
      rw [printNode, treeOf]
      exact readsAsElement_enclose (isElementName_name _)
        (readsAs_printNodes written.2 (by rwa [Node.isNormal] at normal))
  | .unsupported tag, _, written, _ => by
      rw [Node.walk, List.forall_mem_cons] at written
      rw [printNode, treeOf]
      exact readsAsElement_wholeTag written.1
  | .invalid tag error, _, written, _ => by
      rw [Node.walk, List.forall_mem_cons] at written
      exact nomatch written.1

/-- What is printed for nodes is read as their trees. -/
theorem readsAs_printNodes : ∀ {nodes : List Node},
    (∀ below ∈ walkAll nodes, below.isWritable = true) → isNormalBody nodes = true →
    ReadsAs (printNodes nodes) (treesOf nodes)
  | [], _, _ => by
      rw [printNodes, treesOf]
      exact readsAs_nil
  | node :: rest, written, normal => by
      rw [walkAll, List.forall_mem_append] at written
      simp only [isNormalBody, Bool.and_eq_true, Bool.not_eq_true'] at normal
      obtain ⟨⟨isNormal, restNormal⟩, apart⟩ := normal
      have others := readsAs_printNodes written.2 restNormal
      rw [printNodes, treesOf]
      cases isText : startsWithText [node] with
      | false => exact readsAs_cons (readsAsElement_printNode isText written.1 isNormal) others
      | true =>
        cases node with
        | text characters =>
          rw [isText, Bool.true_and] at apart
          rw [printNode, treeOf]
          exact readsAs_text (readsAsText_escapeText characters.toList)
            (by simpa [Node.isNormal] using isNormal) (treesOf_ne_text apart) others
        | _ => cases isText

theorem readsAs_printBranches : ∀ {whens : List (Branch Node)} {rest : List Char}
    {trees : List Content}, (∀ below ∈ walkBranches whens, below.isWritable = true) →
    areNormalBranches whens = true → ReadsAs rest trees →
    ReadsAs (printBranches whens ++ rest) (branchTrees whens ++ trees)
  | [], _, _, _, _, others => by
      rw [printBranches, branchTrees]
      exact others
  | ⟨test, children⟩ :: whens, rest, trees, written, normal, others => by
      rw [walkBranches, List.forall_mem_append] at written
      rw [areNormalBranches, Bool.and_eq_true] at normal
      rw [printBranches, branchTrees, List.append_assoc, List.cons_append]
      exact readsAs_cons
        (readsAsElement_encloseWith test (isElementName_name .when) (by decide)
          (readsAs_printNodes written.1 normal.1))
        (readsAs_printBranches written.2 normal.2 others)

end

/-! ### Building what is read -/

theorem ofName?_name (d : Directive) : Directive.ofName? d.name = some d := by
  cases d <;> decide

/-- An element that no directive is named after, a branch outside of a choice
included, is built as an unsupported one. -/
theorem buildNode_of_not_namesDirective {tag : String} (h : namesDirective tag = false)
    (attributes : List (String × String)) (children : List Content) :
    buildNode (.element tag attributes children) = .unsupported tag := by
  have others : ∀ d, Directive.ofName? tag = some d → d ∉ Directive.freestanding := by
    intro d hd member
    rw [Directive.ofName?] at hd
    have same := List.find?_some hd
    rw [namesDirective, List.any_eq_false] at h
    exact h d member same
  rw [buildNode]
  cases hd : Directive.ofName? tag with
  | none => rfl
  | some d =>
    cases d with
    | when | otherwise => rfl
    | _ => exact absurd (by decide) (others _ hd)

theorem requiredAttribute_single (tag name value : String) :
    requiredAttribute tag [(name, value)] name = .ok value := by
  have found : attribute? [(name, value)] name = some value := by
    simp [attribute?, sameLetters]
  rw [requiredAttribute, found]

mutual

theorem buildNode_treeOf : ∀ {node : Node}, (∀ below ∈ node.walk, below.isWritable = true) →
    node.isNormal = true → buildNode (treeOf node) = node
  | .text characters, _, _ => by
      rw [treeOf, buildNode]
  | .ifTest test children, written, normal => by
      rw [Node.walk, List.forall_mem_cons] at written
      have inside := buildNodes_treesOf written.2 (by rwa [Node.isNormal] at normal)
      rw [treeOf, buildNode, ofName?_name]
      simp only [requiredAttribute_single, Except.map, inside, nodeOrInvalid]
  | .choose whens otherwise, written, normal => by
      rw [Node.walk, List.forall_mem_cons, List.forall_mem_append] at written
      simp only [Node.isNormal, Bool.and_eq_true, Bool.not_eq_true'] at normal
      obtain ⟨⟨nonempty, branchesNormal⟩, otherwiseNormal⟩ := normal
      have lastResort :
          buildBranches none [.element Directive.otherwise.name [] (treesOf otherwise)]
            = .ok ([], some otherwise) := by
        rw [buildBranches, ofName?_name]
        simp [buildBranches, buildNodes_treesOf written.2.2 otherwiseNormal]
      rw [treeOf, buildNode, ofName?_name]
      simp only [buildBranches_branchTrees written.2.1 branchesNormal, lastResort, Except.map,
        List.append_nil]
      cases whens with
      | nil => cases nonempty
      | cons branch others => rfl
  | .isNotNull property children, written, normal => by
      rw [Node.walk, List.forall_mem_cons] at written
      have inside := buildNodes_treesOf written.2 (by rwa [Node.isNormal] at normal)
      rw [treeOf, buildNode, ofName?_name]
      simp only [requiredAttribute_single, Except.map, inside, nodeOrInvalid]
  | .inclusion refid, _, _ => by
      rw [treeOf, buildNode, ofName?_name]
      simp only [requiredAttribute_single, Except.map, nodeOrInvalid]
  | .whereBlock children, written, normal => by
      rw [Node.walk, List.forall_mem_cons] at written
      have inside := buildNodes_treesOf written.2 (by rwa [Node.isNormal] at normal)
      rw [treeOf, buildNode, ofName?_name]
      simp only [inside]
  | .unsupported tag, _, normal => by
      rw [Node.isNormal, Bool.not_eq_true'] at normal
      rw [treeOf, buildNode_of_not_namesDirective normal]
  | .invalid tag error, written, _ => by
      rw [Node.walk, List.forall_mem_cons] at written
      exact nomatch written.1

/-- What is built of the trees of nodes are the nodes. -/
theorem buildNodes_treesOf : ∀ {nodes : List Node},
    (∀ below ∈ walkAll nodes, below.isWritable = true) → isNormalBody nodes = true →
    buildNodes (treesOf nodes) = nodes
  | [], _, _ => by
      rw [treesOf, buildNodes]
  | node :: rest, written, normal => by
      rw [walkAll, List.forall_mem_append] at written
      simp only [isNormalBody, Bool.and_eq_true] at normal
      rw [treesOf, buildNodes, buildNode_treeOf written.1 normal.1.1,
        buildNodes_treesOf written.2 normal.1.2]

theorem buildBranches_branchTrees : ∀ {whens : List (Branch Node)},
    (∀ below ∈ walkBranches whens, below.isWritable = true) → areNormalBranches whens = true →
    ∀ (lastResort : Option (List Node)) (rest : List Content),
      buildBranches lastResort (branchTrees whens ++ rest)
        = (buildBranches lastResort rest).map fun (more, lastResort) => (whens ++ more, lastResort)
  | [], _, _, lastResort, rest => by
      rw [branchTrees, List.nil_append]
      cases buildBranches lastResort rest <;> rfl
  | ⟨test, children⟩ :: whens, written, normal, lastResort, rest => by
      rw [walkBranches, List.forall_mem_append] at written
      rw [areNormalBranches, Bool.and_eq_true] at normal
      rw [branchTrees, List.cons_append, buildBranches, ofName?_name]
      simp only [requiredAttribute_single, buildNodes_treesOf written.1 normal.1,
        buildBranches_branchTrees written.2 normal.2]
      cases buildBranches lastResort rest <;> rfl

end

theorem statementsOfAll_trees {statements : List Statement}
    (rebuilt : ∀ s ∈ statements, buildNodes (treesOf s.body) = s.body) :
    statementsOfAll (statements.map Statement.tree) = statements := by
  induction statements with
  | nil => rfl
  | cons s rest ih =>
    obtain ⟨first, others⟩ := List.forall_mem_cons.mp rebuilt
    have found : attribute? [("id", s.id)] "id" = some s.id := by
      simp [attribute?, sameLetters]
    rw [List.map_cons, statementsOfAll, Statement.tree, statementsOf, found]
    simp only [first, ih others, List.singleton_append]

/-! ### Documents -/

theorem readsAs_printStatements {statements : List Statement}
    (reads : ∀ s ∈ statements, ReadsAsElement (printStatement s) s.tree) :
    ReadsAs (statements.flatMap printStatement) (statements.map Statement.tree) := by
  induction statements with
  | nil => exact readsAs_nil
  | cons s rest ih =>
    obtain ⟨first, others⟩ := List.forall_mem_cons.mp reads
    exact readsAs_cons first (ih others)

/-- Each single node of a document that can be written can itself be written. -/
theorem Writable.isWritable {d : SqlMapper.Document} (h : Writable d) {s : Statement}
    (hs : s ∈ d.statements) {node : Node} (hnode : node ∈ walkAll s.body) :
    node.isWritable = true := by
  cases node with
  | unsupported tag => exact h.tags _ (mem_unsupportedTags_iff.mpr ⟨s, hs, rfl, hnode⟩)
  | invalid tag error =>
    have found := mem_invalidDirectives_iff.mpr ⟨s, hs, rfl, hnode⟩
    rw [h.valid] at found
    cases found
  | _ => rfl

/-- Parsing what is printed for a document gives the document. -/
theorem parse_print {d : SqlMapper.Document} (h : Writable d) : parse (print d) = .ok d := by
  have reads : ∀ s ∈ d.statements, ReadsAsElement (printStatement s) s.tree := by
    intro s hs
    have body := readsAs_printNodes (fun _ => h.isWritable hs) (h.normal s hs)
    exact readsAsElement_encloseWith s.id (h.kinds s hs) (by decide) body
  have rebuilt : ∀ s ∈ d.statements, buildNodes (treesOf s.body) = s.body :=
    fun s hs => buildNodes_treesOf (fun _ => h.isWritable hs) (h.normal s hs)
  have noMark : dropByteOrderMark (d.statements.flatMap printStatement)
      = d.statements.flatMap printStatement := by
    cases d.statements <;> rfl
  rw [parse, print, readMarkup_of_readsAs (readsAs_printStatements reads) noMark, Except.map,
    ofContents, statementsOfAll_trees rebuilt, firstOfEachId_of_nodup h.distinct]

private def searchDocument : SqlMapper.Document :=
  ⟨[⟨"select", "find \"all\"",
      [.text "SELECT *\r\nFROM t", .whereBlock
        [.ifTest "a < 1" [.text "a < #\x7ba\x7d & "],
          .choose [⟨"b == 'x'", [.unsupported "when", .text "b > 0"]⟩] [.inclusion "rest"]],
        .isNotNull "c" []]⟩,
    ⟨"sql", "rest", []⟩]⟩

/-- A document with every kind of node and characters that have to be escaped. -/
theorem parse_print_escaped :
    Writable searchDocument ∧ parse (print searchDocument) = .ok searchDocument :=
  have writable : Writable searchDocument := by decide
  ⟨writable, parse_print writable⟩

example : print ⟨[⟨"sql", "a\"b", [.text "< \r", .unsupported "br"]⟩]⟩
    = "<sql id=\"a&quot;b\">&lt; &#13;<br/></sql>" := by rfl

end SqlMapper.Document
