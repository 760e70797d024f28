import ChangeGraph.Proofs.Dot.Quoted
import ChangeGraph.Proofs.Text.Cutting

/-!
# Reading a graph back

A reader for texts in DOT: words, quoted texts and single marks make up statements, each of which ends with a
semicolon. It finds one statement for each node and edge of a written graph, with its name and all that is said of it,
if and only if every quoted text has even runs of backslashes.
-/

namespace ChangeGraph.Dot

/-! ### Tokens -/

inductive Token where
  | word (cs : List Char)
  /-- What stands between two quotes, as it stands there. -/
  | quoted (cs : List Char)
  | mark (c : Char)
deriving DecidableEq, Repr

def isWordChar (c : Char) : Bool := c.isAlphanum || c == '_'

def isBlank (c : Char) : Bool := c == ' ' || c == '\n'

theorem length_of_readQuoted {cs : List Char} {r : List Char × List Char} (h : readQuoted cs = some r) :
    r.2.length < cs.length := by
  fun_induction readQuoted cs generalizing r with
  | case1 => cases h
  | case2 cs =>
    cases h
    simp
  | case3 c cs ih =>
    obtain ⟨r', hread, rfl⟩ := Option.map_eq_some_iff.mp h
    have := ih hread
    simp only [List.length_cons]
    omega
  | case4 c cs _ _ ih =>
    obtain ⟨r', hread, rfl⟩ := Option.map_eq_some_iff.mp h
    have := ih hread
    simp only [List.length_cons]
    omega

/-- The tokens of a text. -/
def tokens : List Char → Option (List Token)
  | [] => some []
  | c :: cs =>
    if c = '"' then
      match h : readQuoted cs with
      | none => none
      | some r =>
        have := length_of_readQuoted h
        (tokens r.2).map (.quoted r.1 :: ·)
    else if isWordChar c then
      have : (cs.dropWhile isWordChar).length ≤ cs.length := (List.dropWhile_sublist _).length_le
      (tokens (cs.dropWhile isWordChar)).map (.word (c :: cs.takeWhile isWordChar) :: ·)
    else if isBlank c then tokens cs
    else (tokens cs).map (.mark c :: ·)
termination_by cs => cs.length

theorem tokens_nil : tokens [] = some [] := by rw [tokens]

theorem tokens_quote (cs : List Char) :
    tokens ('"' :: cs) = (readQuoted cs).bind fun r => (tokens r.2).map (.quoted r.1 :: ·) := by
  rw [tokens, if_pos rfl]
  split
  · next h => simp [h]
  · next r h => simp [h]

theorem tokens_cons {c : Char} (hc : c ≠ '"') (cs : List Char) :
    tokens (c :: cs) =
      if isWordChar c then (tokens (cs.dropWhile isWordChar)).map (.word (c :: cs.takeWhile isWordChar) :: ·)
      else if isBlank c then tokens cs
      else (tokens cs).map (.mark c :: ·) := by
  rw [tokens, if_neg hc]

/-- A text that has the given tokens, whatever follows it. -/
def Lexes (cs : List Char) (ts : List Token) : Prop := ∀ rest, tokens (cs ++ rest) = (tokens rest).map (ts ++ ·)

/-! ### Statements -/

inductive Statement where
  /-- A setting of the whole graph. -/
  | setting (key value : String)
  /-- Attributes that a kind of thing has unless it is said otherwise. -/
  | defaults (kind : String) (attributes : List (String × String))
  | node (id : String) (attributes : List (String × String))
  | edge (source target : String) (attributes : List (String × String))
deriving DecidableEq, Repr

/-- The name that a quoted text stands for. -/
def nameOf (cs : List Char) : String := String.ofList (unescape cs)

/-- Attributes up to the closing bracket. Quoted values are taken as they stand. -/
def attributes? : List Token → Option (List (String × String))
  | [.mark ']'] => some []
  | .mark ',' :: ts => attributes? ts
  | .word k :: .mark '=' :: .word v :: ts => (attributes? ts).map ((String.ofList k, String.ofList v) :: ·)
  | .word k :: .mark '=' :: .quoted v :: ts => (attributes? ts).map ((String.ofList k, String.ofList v) :: ·)
  | _ => none

def attributeList? : List Token → Option (List (String × String))
  | [] => some []
  | .mark '[' :: ts => attributes? ts
  | _ => none

def statement? : List Token → Option Statement
  | .quoted s :: .mark '-' :: .mark '>' :: .quoted t :: ts => (attributeList? ts).map (.edge (nameOf s) (nameOf t))
  | .quoted s :: ts => (attributeList? ts).map (.node (nameOf s))
  | [.word k, .mark '=', .word v] => some (.setting (String.ofList k) (String.ofList v))
  | .word k :: ts => (attributeList? ts).map (.defaults (String.ofList k))
  | _ => none

/-- Statements from their tokens, up to the closing brace. -/
def statements? : List (List Token) → Option (List Statement)
  | [] => none
  | [ts] => if ts = [.mark '\x7d'] then some [] else none
  | ts :: tss => (statement? ts).bind fun s => (statements? tss).map (s :: ·)

def body? (ts : List Token) : Option (List Statement) := statements? (Text.splitAtEach (.mark ';') ts)

/-- The statements of a directed graph. -/
def read? (text : String) : Option (List Statement) :=
  match tokens text.toList with
  | some (.word k :: .word _ :: .mark '\x7b' :: ts) => if k = "digraph".toList then body? ts else none
  | _ => none

theorem body?_statement {ts : List Token} (h : .mark ';' ∉ ts) (rest : List Token) :
    body? (ts ++ .mark ';' :: rest) = (statement? ts).bind fun s => (body? rest).map (s :: ·) := by
  rw [body?, Text.splitAtEach_append_cons h]
  obtain ⟨p, ps, hps⟩ := List.exists_cons_of_ne_nil (Text.splitAtEach_ne_nil (.mark ';') rest)
  rw [body?, hps, statements?]
  simp

/-- What is read first comes from the tokens in front. -/
theorem exists_of_body? {cs : List Char} {front rest : List Token} (hfront : .mark ';' ∉ front)
    {s : Statement} {ss : List Statement} (h : body? (.quoted cs :: front ++ rest) = some (s :: ss)) :
    ∃ more, statement? (.quoted cs :: front ++ more) = some s := by
  have hall : ∀ t ∈ .quoted cs :: front, (t != .mark ';') = true := by
    intro t ht
    rw [bne_iff_ne]
    rintro rfl
    rcases List.mem_cons.mp ht with heq | hmem
    · cases heq
    · exact hfront hmem
  obtain ⟨ps, hps⟩ := Text.splitAtEach_eq_cons (.mark ';') (.quoted cs :: front ++ rest)
  rw [List.takeWhile_append_of_pos hall] at hps
  rw [body?, hps] at h
  cases ps with
  | nil =>
    rw [statements?] at h
    split at h
    · cases h
    · cases h
  | cons p ps =>
    obtain ⟨s', hs', h⟩ := Option.bind_eq_some_iff.mp h
    obtain ⟨ss', -, heq⟩ := Option.map_eq_some_iff.mp h
    cases heq
    exact ⟨_, hs'⟩

/-! ### Reading on -/

/-- What is read of a text after some tokens. -/
def readsAfter (front : List Token) (cs : List Char) : Option (List Statement) :=
  (tokens cs).bind fun ts => body? (front ++ ts)

theorem readsAfter_of_lexes {cs : List Char} {ts : List Token} (h : Lexes cs ts) (front : List Token)
    (rest : List Char) : readsAfter front (cs ++ rest) = readsAfter (front ++ ts) rest := by
  simp [readsAfter, h rest, Option.bind_map]

theorem readsAfter_statement {ts : List Token} (h : .mark ';' ∉ ts) (front : List Token) (cs : List Char) :
    readsAfter (ts ++ .mark ';' :: front) cs = (statement? ts).bind fun s => (readsAfter front cs).map (s :: ·) := by
  simp only [readsAfter, List.append_assoc, List.cons_append, body?_statement h]
  cases tokens cs <;> cases statement? ts <;> rfl

/-- Where the first statement shows what a quoted text is read as, it is the right one only with even runs. -/
theorem readsAfter_quoted_iff {front : List Token} {text : String} {rest : List Char} {s : Statement}
    {ss : List Statement}
    (h : ∀ cs rest, readsAfter (front ++ [.quoted cs]) rest = some (s :: ss) → unescape cs = text.toList) :
    readsAfter front ((quote text).toList ++ rest) = some (s :: ss) ↔
      EvenRuns text.toList ∧ readsAfter (front ++ [.quoted (escaped text.toList)]) rest = some (s :: ss) := by
  have hquote : (quote text).toList ++ rest = '"' :: (escaped text.toList ++ '"' :: rest) := by
    simp [quote, toList_escape]
  have hread (cs : List Char) : readsAfter front ('"' :: cs) =
      (readQuoted cs).bind fun r => readsAfter (front ++ [.quoted r.1]) r.2 := by
    simp only [readsAfter, tokens_quote]
    cases readQuoted cs with
    | none => rfl
    | some r => simp [Option.bind_map]
  rw [hquote, hread, Option.bind_eq_some_iff]
  constructor
  · rintro ⟨r, hr, hrest⟩
    obtain ⟨heven, rfl⟩ := (readQuoted_escaped_iff (h _ _ hrest)).mp hr
    exact ⟨heven, hrest⟩
  · rintro ⟨heven, hrest⟩
    exact ⟨_, (readQuoted_escaped_iff (unescape_escaped _)).mpr ⟨heven, rfl⟩, hrest⟩

/-! ### Lines -/

def nodeAttributes (s : Symbol) : List (String × String) :=
  ("label", escape (label s)) ::
    if s.kind = .external then [("style", "dashed")]
    else if s.changed then [("style", "filled"), ("fillcolor", "#fde68a")]
    else []

def nodeStatement (n : GraphNode) : Statement := .node n.id (nodeAttributes n.symbol)

def edgeStatement (e : GraphEdge) : Statement :=
  .edge e.source e.target (if e.external then [("style", "dashed")] else [])

theorem lexes_indent : Lexes "  ".toList [] := by
  intro rest
  simp +decide [tokens_cons]

theorem lexes_label : Lexes " [label=".toList [.mark '[', .word "label".toList, .mark '='] := by
  intro rest
  simp +decide [tokens_cons, Function.comp_def]

theorem lexes_arrow : Lexes " -> ".toList [.mark '-', .mark '>'] := by
  intro rest
  simp +decide [tokens_cons, Function.comp_def]

def endTokens (s : Symbol) : List Token :=
  if s.kind = .external then [.mark ',', .word "style".toList, .mark '=', .word "dashed".toList, .mark ']']
  else if s.changed then
    [.mark ',', .word "style".toList, .mark '=', .word "filled".toList, .mark ',', .word "fillcolor".toList, .mark '=',
      .quoted "#fde68a".toList, .mark ']']
  else [.mark ']']

theorem lexes_nodeEnd (s : Symbol) : Lexes ((attributes s).toList ++ "];\n".toList) (endTokens s ++ [.mark ';']) := by
  intro rest
  unfold attributes endTokens
  split
  · simp +decide [tokens_cons, Function.comp_def]
  · split
    · simp +decide [tokens_cons, tokens_quote, readQuoted, Function.comp_def]
    · simp +decide [tokens_cons, Function.comp_def]

theorem exists_of_readsAfter {cs : List Char} {front : List Token} (hfront : .mark ';' ∉ front) {rest : List Char}
    {s : Statement} {ss : List Statement} (h : readsAfter (.quoted cs :: front) rest = some (s :: ss)) :
    ∃ more, statement? (.quoted cs :: front ++ more) = some s := by
  obtain ⟨ts, -, hbody⟩ := Option.bind_eq_some_iff.mp h
  exact exists_of_body? hfront hbody

/-- The name that a statement begins with. -/
def Statement.firstName : Statement → String
  | setting key _ => key
  | defaults kind _ => kind
  | node id _ => id
  | edge source _ _ => source

theorem nameOf_escaped (s : String) : nameOf (escaped s.toList) = s := by
  rw [nameOf, unescape_escaped, String.ofList_toList]

theorem unescape_of_nameOf {cs : List Char} {s : String} (h : nameOf cs = s) : unescape cs = s.toList := by
  rw [← h, nameOf, String.toList_ofList]

theorem unescape_of_firstName {cs rest : List Char} {s : Statement} {ss : List Statement}
    (h : readsAfter [.quoted cs] rest = some (s :: ss)) : unescape cs = s.firstName.toList := by
  obtain ⟨more, hmore⟩ := exists_of_readsAfter List.not_mem_nil h
  rw [List.singleton_append, statement?.eq_def] at hmore
  split at hmore
  · next heq =>
    cases heq
    obtain ⟨as, -, rfl⟩ := Option.map_eq_some_iff.mp hmore
    exact unescape_of_nameOf rfl
  · next heq =>
    cases heq
    obtain ⟨as, -, rfl⟩ := Option.map_eq_some_iff.mp hmore
    exact unescape_of_nameOf rfl
  · next heq => cases heq
  · next heq => cases heq
  · cases hmore

theorem endTokens_notMem (s : Symbol) : .mark ';' ∉ endTokens s := by
  unfold endTokens
  split
  · simp
  · split <;> simp

theorem attributes?_endTokens (s : Symbol) :
    attributes? (.word "label".toList :: .mark '=' :: .quoted (escaped (label s).toList) :: endTokens s) =
      some (nodeAttributes s) := by
  unfold endTokens nodeAttributes
  split
  · simp [attributes?, escape, escaped]
  · split <;> simp [attributes?, escape, escaped]

/-- The tokens of a node up to the equals sign before its label. -/
def nodeFront (n : GraphNode) : List Token :=
  [.quoted (escaped n.id.toList), .mark '[', .word "label".toList, .mark '=']

theorem unescape_label {n : GraphNode} {cs rest : List Char} {ss : List Statement}
    (h : readsAfter (nodeFront n ++ [.quoted cs]) rest = some (nodeStatement n :: ss)) :
    unescape cs = (label n.symbol).toList := by
  obtain ⟨more, hmore⟩ := exists_of_readsAfter (by simp) h
  obtain ⟨as, has, hnode⟩ := Option.map_eq_some_iff.mp hmore
  obtain ⟨as', -, rfl⟩ := Option.map_eq_some_iff.mp has
  have hlabel : String.ofList cs = escape (label n.symbol) := by
    simp only [nodeStatement, nodeAttributes, Statement.node.injEq, List.cons.injEq, Prod.mk.injEq] at hnode
    exact hnode.2.1.2
  rw [← unescape_escaped (label n.symbol).toList, ← toList_escape, ← hlabel, String.toList_ofList]

theorem statement?_node (n : GraphNode) :
    statement? (nodeFront n ++ [.quoted (escaped (label n.symbol).toList)] ++ endTokens n.symbol) =
      some (nodeStatement n) := by
  simpa [nodeFront, statement?, attributeList?, nameOf_escaped, nodeStatement] using attributes?_endTokens n.symbol

theorem readsAfter_node_iff (n : GraphNode) (rest : List Char) (ss : List Statement) :
    readsAfter [] ((nodeLine n).toList ++ '\n' :: rest) = some (nodeStatement n :: ss) ↔
      (EvenRuns n.id.toList ∧ EvenRuns (label n.symbol).toList) ∧ readsAfter [] rest = some ss := by
  have hline : (nodeLine n).toList ++ '\n' :: rest = "  ".toList ++ ((quote n.id).toList ++ (" [label=".toList ++
      ((quote (label n.symbol)).toList ++ ((attributes n.symbol).toList ++ "];\n".toList ++ rest)))) := by
    simp [nodeLine]
  have hfront : [.quoted (escaped n.id.toList)] ++ [.mark '[', .word "label".toList, .mark '='] = nodeFront n := rfl
  have hsemicolon : .mark ';' ∉ nodeFront n ++ [.quoted (escaped (label n.symbol).toList)] ++ endTokens n.symbol := by
    simp [nodeFront, endTokens_notMem]
  rw [hline, readsAfter_of_lexes lexes_indent, List.append_nil,
    readsAfter_quoted_iff (fun _ _ => unescape_of_firstName), List.nil_append,
    readsAfter_of_lexes lexes_label, hfront, readsAfter_quoted_iff (fun _ _ => unescape_label),
    readsAfter_of_lexes (lexes_nodeEnd n.symbol), ← List.append_assoc, readsAfter_statement hsemicolon,
    statement?_node, Option.bind_some, Option.map_eq_some_iff, and_assoc]
  simp

/-! ### Edges -/

def dashTokens (e : GraphEdge) : List Token :=
  if e.external then [.mark '[', .word "style".toList, .mark '=', .word "dashed".toList, .mark ']'] else []

theorem lexes_edgeEnd (e : GraphEdge) :
    Lexes ((if e.external then " [style=dashed]" else "").toList ++ ";\n".toList) (dashTokens e ++ [.mark ';']) := by
  intro rest
  unfold dashTokens
  split <;> simp +decide [tokens_cons, Function.comp_def]

def edgeFront (e : GraphEdge) : List Token := [.quoted (escaped e.source.toList), .mark '-', .mark '>']

theorem unescape_target {e : GraphEdge} {cs rest : List Char} {ss : List Statement}
    (h : readsAfter (edgeFront e ++ [.quoted cs]) rest = some (edgeStatement e :: ss)) :
    unescape cs = e.target.toList := by
  obtain ⟨more, hmore⟩ := exists_of_readsAfter (by simp) h
  obtain ⟨as, -, hedge⟩ := Option.map_eq_some_iff.mp hmore
  rw [edgeStatement, Statement.edge.injEq] at hedge
  exact unescape_of_nameOf hedge.2.1

theorem statement?_edge (e : GraphEdge) :
    statement? (edgeFront e ++ [.quoted (escaped e.target.toList)] ++ dashTokens e) = some (edgeStatement e) := by
  unfold dashTokens edgeStatement
  split <;> simp [edgeFront, statement?, attributeList?, attributes?, nameOf_escaped]

theorem readsAfter_edge_iff (e : GraphEdge) (rest : List Char) (ss : List Statement) :
    readsAfter [] ((edgeLine e).toList ++ '\n' :: rest) = some (edgeStatement e :: ss) ↔
      (EvenRuns e.source.toList ∧ EvenRuns e.target.toList) ∧ readsAfter [] rest = some ss := by
  have hline : (edgeLine e).toList ++ '\n' :: rest =
      "  ".toList ++ ((quote e.source).toList ++ (" -> ".toList ++ ((quote e.target).toList ++
        ((if e.external then " [style=dashed]" else "").toList ++ ";\n".toList ++ rest)))) := by
    simp [edgeLine]
  have hfront : [.quoted (escaped e.source.toList)] ++ [.mark '-', .mark '>'] = edgeFront e := rfl
  have hsemicolon : .mark ';' ∉ edgeFront e ++ [.quoted (escaped e.target.toList)] ++ dashTokens e := by
    unfold dashTokens
    split <;> simp [edgeFront]
  rw [hline, readsAfter_of_lexes lexes_indent, List.append_nil,
    readsAfter_quoted_iff (fun _ _ => unescape_of_firstName), List.nil_append,
    readsAfter_of_lexes lexes_arrow, hfront, readsAfter_quoted_iff (fun _ _ => unescape_target),
    readsAfter_of_lexes (lexes_edgeEnd e), ← List.append_assoc, readsAfter_statement hsemicolon,
    statement?_edge, Option.bind_some, Option.map_eq_some_iff, and_assoc]
  simp

/-! ### Graphs -/

/-- The statements that a graph consists of. -/
def statements (g : CallGraph) : List Statement :=
  [.setting "rankdir" "LR", .defaults "node" [("shape", "box"), ("fontname", "monospace")]] ++
    g.nodes.map nodeStatement ++ g.edges.map edgeStatement

/-- The texts that a graph puts in quotes. -/
def texts (g : CallGraph) : List String :=
  (g.nodes.flatMap fun n => [n.id, label n.symbol]) ++ g.edges.flatMap fun e => [e.source, e.target]

/-- Lines that are each read as one statement if and only if their texts have even runs. -/
theorem readsAfter_lines_iff {α : Type} {line : α → String} {statement : α → Statement} {even : α → Prop}
    (hline : ∀ a rest ss, readsAfter [] ((line a).toList ++ '\n' :: rest) = some (statement a :: ss) ↔
      even a ∧ readsAfter [] rest = some ss) (as : List α) (rest : List Char) (ss : List Statement) :
    readsAfter [] (as.flatMap (fun a => (line a).toList ++ ['\n']) ++ rest) = some (as.map statement ++ ss) ↔
      (∀ a ∈ as, even a) ∧ readsAfter [] rest = some ss := by
  induction as with
  | nil => simp
  | cons a as ih =>
    rw [List.flatMap_cons, List.append_assoc, List.append_assoc, List.singleton_append, List.map_cons, List.cons_append,
      hline, ih, List.forall_mem_cons, and_assoc]

theorem toList_intercalate_concat (lines : List String) (last : String) :
    ("\n".intercalate (lines ++ [last])).toList = lines.flatMap (fun s => s.toList ++ ['\n']) ++ last.toList := by
  induction lines with
  | nil => simp
  | cons s lines ih =>
    rw [List.cons_append, String.intercalate_cons_of_ne_nil (by simp)]
    simp [ih]

theorem toList_toDot (g : CallGraph) : g.toDot.toList =
    header.flatMap (fun s => s.toList ++ ['\n']) ++ (g.nodes.flatMap (fun n => (nodeLine n).toList ++ ['\n']) ++
      (g.edges.flatMap (fun e => (edgeLine e).toList ++ ['\n']) ++ ['\x7d'])) := by
  rw [CallGraph.toDot, toList_intercalate_concat]
  simp [List.flatMap_map]

def openTokens : List Token := [.word "digraph".toList, .word "CodeFlow".toList, .mark '\x7b']

def rankTokens : List Token := [.word "rankdir".toList, .mark '=', .word "LR".toList]

def shapeTokens : List Token :=
  [.word "node".toList, .mark '[', .word "shape".toList, .mark '=', .word "box".toList, .mark ',',
    .word "fontname".toList, .mark '=', .quoted "monospace".toList, .mark ']']

theorem lexes_header : Lexes (header.flatMap fun s => s.toList ++ ['\n'])
    (openTokens ++ (rankTokens ++ .mark ';' :: (shapeTokens ++ [.mark ';']))) := by
  intro rest
  simp +decide [header, openTokens, rankTokens, shapeTokens, tokens_cons, tokens_quote, readQuoted, Function.comp_def]

theorem read?_of_lexes {text : String} {ts : List Token} {cs rest : List Char} (h : Lexes cs (openTokens ++ ts))
    (htext : text.toList = cs ++ rest) : read? text = readsAfter ts rest := by
  rw [read?, htext, h rest, readsAfter]
  cases tokens rest with
  | none => rfl
  | some us => rfl

theorem readsAfter_end : readsAfter [] ['\x7d'] = some [] := by
  have htokens : tokens ['\x7d'] = some [.mark '\x7d'] := by simp +decide [tokens_cons, tokens_nil]
  rw [readsAfter, htokens]
  rfl

theorem forall_mem_texts {g : CallGraph} {p : String → Prop} :
    (∀ s ∈ texts g, p s) ↔ (∀ n ∈ g.nodes, p n.id ∧ p (label n.symbol)) ∧ ∀ e ∈ g.edges, p e.source ∧ p e.target := by
  rw [texts, List.forall_mem_append, List.forall_mem_flatMap, List.forall_mem_flatMap]
  simp

theorem read?_toDot_iff (g : CallGraph) :
    read? g.toDot = some (statements g) ↔ ∀ s ∈ texts g, EvenRuns s.toList := by
  have hrank : statement? rankTokens = some (.setting "rankdir" "LR") := by decide
  have hshape : statement? shapeTokens = some (.defaults "node" [("shape", "box"), ("fontname", "monospace")]) := by
    decide
  have hedges := readsAfter_lines_iff readsAfter_edge_iff g.edges ['\x7d'] []
  rw [readsAfter_end, List.append_nil, and_iff_left rfl] at hedges
  have hnodes := readsAfter_lines_iff readsAfter_node_iff g.nodes
    (g.edges.flatMap (fun e => (edgeLine e).toList ++ ['\n']) ++ ['\x7d']) (g.edges.map edgeStatement)
  rw [hedges] at hnodes
  rw [read?_of_lexes lexes_header (toList_toDot g), readsAfter_statement (by decide), hrank, Option.bind_some,
    readsAfter_statement (by decide), hshape, Option.bind_some, forall_mem_texts, ← hnodes]
  simp [statements]

/-- A text in quotes follows from what stands between them. It is read up to its own closing quote if and only if its
runs of backslashes are even, and a graph is read back, statement by statement, if and only if this holds of all its
texts. -/
theorem toDot_reads_back_iff (g : CallGraph) :
    (∀ s rest, (quote s).toList ++ rest = '"' :: ((escape s).toList ++ '"' :: rest) ∧
      unescape (escape s).toList = s.toList ∧
      (readQuoted ((escape s).toList ++ '"' :: rest) = some ((escape s).toList, rest) ↔ EvenRuns s.toList)) ∧
    (read? g.toDot = some (statements g) ↔ ∀ s ∈ texts g, EvenRuns s.toList) := by
  refine ⟨fun s rest => ⟨by simp [quote], ?_, ?_⟩, read?_toDot_iff g⟩
  · rw [toList_escape, unescape_escaped]
  · rw [toList_escape, readQuoted_escaped_iff (unescape_escaped _), and_iff_left rfl]

/-- A function of a file, by its name. -/
def functionNamed (name : String) : Symbol where
  id := "n"
  name
  signature := ""
  path := "f.js"
  range := LineRange.single 1
  changed := false
  kind := .method
  snippet := ""

def oneNode (name : String) : CallGraph where
  nodes := [{ id := "n", symbol := functionNamed name }]

theorem toDot_reads_back_quotes : read? (oneNode "\"a\\\\b\"").toDot = some (statements (oneNode "\"a\\\\b\"")) :=
  (toDot_reads_back_iff _).2.mpr (by decide)

/-- The backslash in the name takes the one that is put before the quote, and the label ends there. -/
theorem toDot_label_cut_short :
    escape (label (functionNamed "\"a\\\"b\"")) = "\\\"a\\\\\"b\\\"\\nf.js:1" ∧
    (readQuoted ((escape (label (functionNamed "\"a\\\"b\""))).toList ++ ['"'])).map (fun r => String.ofList r.1) =
      some "\\\"a\\\\" ∧
    read? (oneNode "\"a\\\"b\"").toDot ≠ some (statements (oneNode "\"a\\\"b\"")) := by
  refine ⟨by decide, by decide, fun h => ?_⟩
  exact absurd ((read?_toDot_iff _).mp h) (by decide)

end ChangeGraph.Dot
