import ThreatModel.Diagram.Dot
import ThreatModel.Format
import ThreatModel.Proofs.Diagram.Labels
import ThreatModel.Proofs.Diagram.Members

/-!
Contract: the labels of nodes and clusters as tokens of the DOT language.

Owns:
- bare tokens, quoted tokens, and the texts that may stand between quotes;
- that quotes are escaped for good unless a backslash is left over at the end;
- that a label is a plain token unless it is in angle brackets or ends in such a
  backslash, and where it stands in the text.

Does not own: the labels of edges, which are markup by intent.
-/

namespace ThreatModel.Diagram.Dot

open ThreatModel.Text

/-! ## Plain tokens -/

def IsName (token : List Char) : Prop :=
  ∃ first rest,
    token = first :: rest ∧ startsIdentifier first = true ∧
      ∀ character ∈ rest, (startsIdentifier character || isAsciiDigit character) = true

/-- Digits, perhaps with a point before, among or behind them, and perhaps with a sign. -/
def IsNumeral (token : List Char) : Prop :=
  ∃ sign whole fraction,
    token = sign ++ (whole ++ fraction) ∧
      (sign = [] ∨ sign = ['-']) ∧
      (∀ digit ∈ whole, isAsciiDigit digit = true) ∧
      (fraction = [] ∧ whole ≠ [] ∨
        ∃ places, fraction = '.' :: places ∧ (∀ digit ∈ places, isAsciiDigit digit = true) ∧
          (whole ≠ [] ∨ places ≠ []))

structure IsBareToken (token : List Char) : Prop where
  form : IsName token ∨ IsNumeral token
  noKeyword : isKeyword token = false

/-- What may stand between quotes: a backslash takes the next character with it, and no quote stands
for itself. -/
inductive QuotedBody : List Char → Prop where
  | nil : QuotedBody []
  | plain {character : Char} {rest : List Char}
      (noQuote : character ≠ '\x22')
      (noBackslash : character ≠ '\\')
      (body : QuotedBody rest) :
      QuotedBody (character :: rest)
  | escaped {character : Char} {rest : List Char}
      (body : QuotedBody rest) :
      QuotedBody ('\\' :: character :: rest)

def IsQuotedToken (token : List Char) : Prop :=
  ∃ body, QuotedBody body ∧ token = '\x22' :: (body ++ ['\x22'])

/-- The token is text for a reader, and it ends where it should. -/
def IsPlainToken (token : List Char) : Prop :=
  IsBareToken token ∨ IsQuotedToken token

/-! ## Bare tokens -/

theorem dropFinalNewline_of_sameLine
    {text : List Char}
    (sameLine : '\n' ∉ text) :
    dropFinalNewline text = text := by
  have noEnd : text.getLast? ≠ some '\n' := fun isLast => sameLine (List.mem_of_getLast? isLast)
  rw [dropFinalNewline, if_neg noEnd]

theorem isName_of_isIdentifier
    {text : List Char}
    (accepted : isIdentifier text = true) :
    IsName text := by
  cases text with
  | nil => cases accepted
  | cons first rest =>
      rw [isIdentifier, Bool.and_eq_true, List.all_eq_true] at accepted
      exact ⟨first, rest, rfl, accepted.1, accepted.2⟩

theorem isNumeral_of_isUnsignedNumber
    {sign text : List Char}
    (isSign : sign = [] ∨ sign = ['-'])
    (accepted : isUnsignedNumber text = true) :
    IsNumeral (sign ++ text) := by
  have digits : ∀ digit ∈ text.takeWhile isAsciiDigit, isAsciiDigit digit = true :=
    fun digit member => List.mem_takeWhile_imp member
  have whole := List.takeWhile_append_dropWhile (p := isAsciiDigit) (l := text)
  refine ⟨sign, text.takeWhile isAsciiDigit, text.dropWhile isAsciiDigit, by rw [whole], isSign,
    digits, ?_⟩
  rw [isUnsignedNumber] at accepted
  split at accepted
  · rename_i noRest
    exact .inl ⟨noRest, by simpa using accepted⟩
  · rename_i places point
    rw [Bool.and_eq_true, List.all_eq_true] at accepted
    refine .inr ⟨places, point, accepted.1, ?_⟩
    have someDigit := accepted.2
    simp only [Bool.not_eq_true', Bool.and_eq_false_iff, List.isEmpty_eq_false_iff] at someDigit
    exact someDigit
  · cases accepted

theorem isBareToken_of_isBare
    {text : List Char}
    (sameLine : '\n' ∉ text)
    (accepted : isBare text = true) :
    IsBareToken text := by
  rw [isBare, dropFinalNewline_of_sameLine sameLine, Bool.and_eq_true, Bool.or_eq_true,
    Bool.not_eq_true'] at accepted
  obtain ⟨isName | isNumber, noKeyword⟩ := accepted
  · exact ⟨.inl (isName_of_isIdentifier isName), noKeyword⟩
  · refine ⟨.inr ?_, noKeyword⟩
    unfold Dot.isNumber at isNumber
    split at isNumber
    · exact isNumeral_of_isUnsignedNumber (.inr rfl) isNumber
    · exact isNumeral_of_isUnsignedNumber (.inl rfl) isNumber

/-- The characters of bare tokens. -/
def isBareChar (character : Char) : Bool :=
  startsIdentifier character || isAsciiDigit character || character = '-' || character = '.'

theorem IsBareToken.isBareChar_of_mem
    {token : List Char}
    (bare : IsBareToken token) :
    ∀ character ∈ token, isBareChar character = true := by
  intro character member
  rcases bare.form with ⟨first, rest, rfl, starts, continues⟩ |
    ⟨sign, whole, fraction, rfl, isSign, digits, rest⟩
  · rcases List.mem_cons.mp member with rfl | later
    · simp [isBareChar, starts]
    · have kept := continues character later
      simp only [isBareChar, kept, Bool.true_or]
  · have ofDigit (isDigit : isAsciiDigit character = true) : isBareChar character = true := by
      simp [isBareChar, isDigit]
    rcases List.mem_append.mp member with inSign | member
    · rcases isSign with rfl | rfl
      · cases inSign
      · obtain rfl := List.mem_singleton.mp inSign
        decide
    · rcases List.mem_append.mp member with inWhole | inFraction
      · exact ofDigit (digits character inWhole)
      · rcases rest with ⟨rfl, _⟩ | ⟨places, rfl, placeDigits, _⟩
        · cases inFraction
        · rcases List.mem_cons.mp inFraction with rfl | inPlaces
          · decide
          · exact ofDigit (placeDigits character inPlaces)

theorem IsBareToken.not_mem
    {token : List Char}
    (bare : IsBareToken token)
    {mark : Char}
    (other : isBareChar mark = false) :
    mark ∉ token := by
  intro member
  rw [bare.isBareChar_of_mem mark member] at other
  cases other

/-! ## Quoted tokens -/

theorem quotedBody_escaped_iff
    {character : Char}
    {rest : List Char} :
    QuotedBody ('\\' :: character :: rest) ↔ QuotedBody rest := by
  constructor
  · intro body
    cases body with
    | plain _ noBackslash _ => exact absurd rfl noBackslash
    | escaped body => exact body
  · exact .escaped

theorem quotedBody_plain_iff
    {character : Char}
    {rest : List Char}
    (noQuote : character ≠ '\x22')
    (noBackslash : character ≠ '\\') :
    QuotedBody (character :: rest) ↔ QuotedBody rest := by
  constructor
  · intro body
    cases body with
    | plain _ _ body => exact body
    | escaped body => exact absurd rfl noBackslash
  · exact .plain noQuote noBackslash

theorem not_quotedBody_backslash : ¬QuotedBody ['\\'] := by
  intro body
  cases body with
  | plain _ noBackslash _ => exact noBackslash rfl

/-- Whether a backslash is left over at the end, given whether one is at the beginning. -/
def leavesEscape : (escaped : Bool) → List Char → Bool
  | escaped, [] => escaped
  | escaped, character :: rest => leavesEscape (character = '\\' && !escaped) rest

/-- Escaping makes a body, unless a backslash is left over to take the closing quote with it. -/
theorem quotedBody_escapeQuotes_iff
    (escaped : Bool)
    (text : List Char) :
    QuotedBody ((if escaped then ['\\'] else []) ++ escapeQuotes escaped text) ↔
      leavesEscape escaped text = false := by
  induction text generalizing escaped with
  | nil =>
      cases escaped with
      | false => exact ⟨fun _ => rfl, fun _ => .nil⟩
      | true => exact ⟨fun body => absurd body not_quotedBody_backslash, fun left => nomatch left⟩
  | cons character rest inductionHypothesis =>
      have here := inductionHypothesis (character = '\\' && !escaped)
      by_cases isQuote : character = '\x22'
      · subst isQuote
        cases escaped with
        | false => simpa [escapeQuotes, leavesEscape, quotedBody_escaped_iff] using here
        | true => simpa [escapeQuotes, leavesEscape, quotedBody_escaped_iff] using here
      · by_cases isBackslash : character = '\\'
        · subst isBackslash
          cases escaped with
          | false => simpa [escapeQuotes, leavesEscape] using here
          | true => simpa [escapeQuotes, leavesEscape, quotedBody_escaped_iff] using here
        · cases escaped with
          | false =>
              simpa [escapeQuotes, leavesEscape, isQuote, isBackslash,
                quotedBody_plain_iff isQuote isBackslash] using here
          | true =>
              simpa [escapeQuotes, leavesEscape, isQuote, isBackslash, quotedBody_escaped_iff]
                using here

def trailingBackslashes (text : List Char) : Nat :=
  (text.reverse.takeWhile (· = '\\')).length

theorem leavesEscape_append_singleton
    (escaped : Bool)
    (text : List Char)
    (last : Char) :
    leavesEscape escaped (text ++ [last]) =
      (decide (last = '\\') && !leavesEscape escaped text) := by
  induction text generalizing escaped with
  | nil => rfl
  | cons head rest inductionHypothesis => exact inductionHypothesis _

/-- Backslashes escape each other in pairs. -/
theorem leavesEscape_eq_false_iff (text : List Char) :
    leavesEscape false text = false ↔ trailingBackslashes text % 2 = 0 := by
  induction text using List.reverseRecOn with
  | nil => exact ⟨fun _ => rfl, fun _ => rfl⟩
  | append_singleton front last inductionHypothesis =>
      rw [leavesEscape_append_singleton, trailingBackslashes, List.reverse_append,
        List.reverse_singleton, List.singleton_append, List.takeWhile_cons]
      by_cases isBackslash : last = '\\'
      · have counted : leavesEscape false front = true ↔ trailingBackslashes front % 2 = 1 := by
          rw [← Bool.not_eq_false, inductionHypothesis]
          omega
        have oneMore : (trailingBackslashes front + 1) % 2 = 0 ↔
            trailingBackslashes front % 2 = 1 := by
          omega
        simp only [isBackslash, decide_true, Bool.true_and, Bool.not_eq_false', if_true,
          List.length_cons]
        exact counted.trans oneMore.symm
      · simp [isBackslash]

/-! ## Labels -/

/-- The text is in angle brackets from end to end. -/
def Bracketed (label : String) : Prop :=
  ∃ inner, label.toList = '<' :: (inner ++ ['>'])

theorem isMarkup_iff
    {label : String}
    (oneLine : OneLine label) :
    isMarkup label.toList = true ↔ Bracketed label := by
  rw [isMarkup, dropFinalNewline_of_sameLine oneLine, Bool.and_eq_true, decide_eq_true_iff,
    decide_eq_true_iff, Bracketed]
  constructor
  · rintro ⟨first, last⟩
    obtain ⟨rest, spelled⟩ := List.head?_eq_some_iff.mp first
    rw [spelled, List.getLast?_eq_some_iff] at last
    obtain ⟨front, parted⟩ := last
    cases front with
    | nil => cases parted
    | cons opening inner =>
        obtain ⟨rfl, sameRest⟩ := List.cons.inj parted
        exact ⟨inner, spelled.trans (congrArg ('<' :: ·) sameRest)⟩
  · rintro ⟨inner, spelled⟩
    rw [spelled]
    constructor
    · rfl
    · rw [← List.cons_append, List.getLast?_append, List.getLast?_singleton]
      rfl

theorem not_isPlainToken_of_bracketed
    {label : String}
    (bracketed : Bracketed label) :
    ¬IsPlainToken label.toList := by
  obtain ⟨inner, spelled⟩ := bracketed
  rw [spelled]
  rintro (bare | ⟨body, _, quoted⟩)
  · exact bare.not_mem (by decide) List.mem_cons_self
  · cases quoted

theorem trailingBackslashes_of_bare
    {text : List Char}
    (bare : IsBareToken text) :
    trailingBackslashes text = 0 := by
  rw [trailingBackslashes, List.length_eq_zero_iff, List.takeWhile_eq_nil_iff]
  intro inhabited isBackslash
  have member := List.mem_reverse.mp (List.get_mem text.reverse ⟨0, inhabited⟩)
  rw [of_decide_eq_true isBackslash] at member
  exact bare.not_mem (by decide) member

theorem isPlainToken_quoted_iff (text : List Char) :
    IsPlainToken ('\x22' :: (escapeQuotes false text ++ ['\x22'])) ↔
      trailingBackslashes text % 2 = 0 := by
  rw [← leavesEscape_eq_false_iff, ← quotedBody_escapeQuotes_iff false text]
  constructor
  · rintro (bare | ⟨body, isBody, quoted⟩)
    · exact absurd List.mem_cons_self (bare.not_mem (by decide))
    · have sameBody := List.append_cancel_right (List.cons.inj quoted).2
      rw [sameBody]
      exact isBody
  · intro isBody
    exact .inr ⟨_, isBody, rfl⟩

/-- A label on one line is written as text, unless it is bracketed or ends in a backslash without a
partner. -/
theorem isPlainToken_token_iff
    {label : String}
    (oneLine : OneLine label) :
    IsPlainToken (token label).toList ↔
      ¬Bracketed label ∧ trailingBackslashes label.toList % 2 = 0 := by
  rw [token, String.toList_ofList, tokenChars]
  by_cases bracketed : Bracketed label
  · have isMarkup := (isMarkup_iff oneLine).mpr bracketed
    rw [if_pos (by simp [isMarkup])]
    simp [not_isPlainToken_of_bracketed bracketed, bracketed]
  · have noMarkup : isMarkup label.toList = false :=
      Bool.not_eq_true _ ▸ mt (isMarkup_iff oneLine).mp bracketed
    by_cases isBare : isBare label.toList = true
    · have bare := isBareToken_of_isBare oneLine isBare
      rw [if_pos (by simp [isBare])]
      simp [IsPlainToken, bare, bracketed, trailingBackslashes_of_bare bare]
    · rw [if_neg (by simp [noMarkup, isBare]), isPlainToken_quoted_iff]
      simp [bracketed]

end ThreatModel.Diagram.Dot

namespace ThreatModel.Diagram

open ThreatModel.Diagram.Dot
open ThreatModel.Text

/-! ## Where labels stand -/

/-- The labels of clusters and their nodes, in the order in which they are written. -/
def labels (diagram : Diagram) : List String :=
  diagram.clusters.values.flatMap fun cluster =>
    cluster.label :: (diagram.nodesOf cluster).map Node.label

/-- The assignment of a label, with the blank after it. -/
def labelAssignment (label : String) : String :=
  "label=" ++ token label ++ " "

/-- The statements of the clusters, each around those of its nodes. -/
def clusterStatements (diagram : Diagram) : List String :=
  diagram.clusters.values.map fun cluster =>
    clusterStatement cluster (diagram.nodesOf cluster)

theorem WellFormed.dotWrite_eq
    {diagram : Diagram}
    (wellFormed : diagram.WellFormed)
    (direction : String) :
    Dot.write diagram direction =
      .ok ("digraph G \x7b\n" ++
        "\tcompound=true nodesep=0.6 overlap=scalexy rankdir=" ++ token direction ++ "\n" ++
        String.join diagram.clusterStatements ++
        String.join (diagram.edges.map edgeStatement) ++
        "\x7d\n") := by
  rw [Dot.write, wellFormed.mapM_clusters clusterStatement]
  rfl

/-- The text stands somewhere in the other one. -/
def StandsIn (text other : String) : Prop :=
  text.toList <:+: other.toList

theorem StandsIn.trans
    {text other whole : String}
    (inner : StandsIn text other)
    (outer : StandsIn other whole) :
    StandsIn text whole :=
  List.IsInfix.trans inner outer

theorem standsIn_append (front text back : String) : StandsIn text (front ++ text ++ back) := by
  rw [StandsIn, String.toList_append, String.toList_append]
  exact List.infix_append front.toList text.toList back.toList

theorem standsIn_join
    {texts : List String}
    {text : String}
    (member : text ∈ texts) :
    StandsIn text (String.join texts) := by
  rw [StandsIn, String.toList_join, List.flatMap_def]
  exact List.infix_of_mem_flatten (List.mem_map_of_mem member)

theorem labelAssignment_standsIn_nodeStatement
    (node : Node)
    (key : String) :
    StandsIn (labelAssignment node.label) (nodeStatement node key) := by
  let color := (node.color?.map fun color => "color=" ++ token color ++ " ").getD ""
  have parted : nodeStatement node key =
      "\t\t" ++ token key ++ " [" ++ labelAssignment node.label ++
        (color ++ "shape=" ++ token node.shape.name ++ "]\n") := by
    change "\t\t" ++ token key ++ " [label=" ++ token node.label ++ " " ++ color ++
      "shape=" ++ token node.shape.name ++ "]\n" = _
    rw [labelAssignment, show " [label=" = " [" ++ "label=" from rfl]
    simp only [String.append_assoc]
  rw [parted]
  exact standsIn_append _ _ _

theorem labelAssignment_standsIn_clusterStatement
    (cluster : Cluster)
    (members : List Node) :
    StandsIn (labelAssignment cluster.label) (clusterStatement cluster members) := by
  let statements := List.zipWith nodeStatement members cluster.nodes
  have parted : clusterStatement cluster members =
      "\tsubgraph " ++ token cluster.name ++ " \x7b\n" ++ "\t\t" ++ labelAssignment cluster.label ++
        ("style=dashed\n" ++ String.join statements ++ "\t\x7d\n") := by
    change "\tsubgraph " ++ token cluster.name ++ " \x7b\n" ++
      "\t\tlabel=" ++ token cluster.label ++ " style=dashed\n" ++
      String.join statements ++ "\t\x7d\n" = _
    rw [labelAssignment, show "\t\tlabel=" = "\t\t" ++ "label=" from rfl,
      show " style=dashed\n" = " " ++ "style=dashed\n" from rfl]
    simp only [String.append_assoc]
  rw [parted]
  exact standsIn_append _ _ _

theorem nodeStatement_standsIn_clusterStatement
    {cluster : Cluster}
    {members : List Node}
    (keys : members.map Node.key = cluster.nodes)
    {node : Node}
    (member : node ∈ members) :
    StandsIn (nodeStatement node node.key) (clusterStatement cluster members) := by
  have statements : List.zipWith nodeStatement members cluster.nodes =
      members.map fun node => nodeStatement node node.key := by
    rw [← keys, List.zipWith_map_right, List.zipWith_self]
  have isStatement : nodeStatement node node.key ∈
      List.zipWith nodeStatement members cluster.nodes := by
    rw [statements]
    exact List.mem_map.mpr ⟨node, member, rfl⟩
  exact (standsIn_join isStatement).trans (standsIn_append _ _ "\t\x7d\n")

/-- Every label is assigned, as a token, somewhere in the text. -/
theorem WellFormed.exists_dotWrite
    {diagram : Diagram}
    (wellFormed : diagram.WellFormed)
    (direction : String) :
    ∃ text,
      Dot.write diagram direction = .ok text ∧
        ∀ label ∈ diagram.labels, StandsIn (labelAssignment label) text := by
  refine ⟨_, wellFormed.dotWrite_eq direction, fun label member => ?_⟩
  obtain ⟨cluster, isCluster, inCluster⟩ := List.mem_flatMap.mp member
  have inStatement : StandsIn (labelAssignment label)
      (clusterStatement cluster (diagram.nodesOf cluster)) := by
    rcases List.mem_cons.mp inCluster with rfl | isNodeLabel
    · exact labelAssignment_standsIn_clusterStatement cluster _
    · obtain ⟨node, isNode, rfl⟩ := List.mem_map.mp isNodeLabel
      exact (labelAssignment_standsIn_nodeStatement node node.key).trans
        (nodeStatement_standsIn_clusterStatement (wellFormed.map_key_nodesOf isCluster) isNode)
  have isStatement : clusterStatement cluster (diagram.nodesOf cluster) ∈
      diagram.clusterStatements :=
    List.mem_map.mpr ⟨cluster, isCluster, rfl⟩
  have inStatements := inStatement.trans (standsIn_join isStatement)
  rw [String.append_assoc]
  exact inStatements.trans (standsIn_append _ (String.join diagram.clusterStatements) _)

theorem oneLine_of_mem_labels
    {functions : OrderedMap String Declaration}
    (oneLine : OneLineFunctions functions)
    (graph : CallGraph)
    {label : String}
    (member : label ∈ (drawn functions graph).labels) :
    OneLine label := by
  have labelled := labelled_drawn oneLine graph
  obtain ⟨cluster, isCluster, inCluster⟩ := List.mem_flatMap.mp member
  rcases List.mem_cons.mp inCluster with rfl | isNodeLabel
  · obtain ⟨zone, found⟩ := OrderedMap.mem_values_iff.mp isCluster
    exact labelled.clusters zone cluster found
  · obtain ⟨node, isNode, rfl⟩ := List.mem_map.mp isNodeLabel
    obtain ⟨key, _, found⟩ := List.mem_filterMap.mp isNode
    exact labelled.nodes key node found

/-- In the drawing of texts that were read, along any call graph, every label of a node or of a
cluster is assigned as one token; and this is plain text unless the label is in angle brackets, or
ends in a backslash that takes the closing quote with it. -/
theorem dot_labels_plain_iff
    (files : List (String × String))
    (graph : CallGraph)
    (direction : RankDirection) :
    let functions := (Ledger.readAll ∅ files).functions
    ∃ diagram text,
      ofFunctions functions graph (.ofFunctions functions) = .ok diagram ∧
        Dot.write diagram direction.name = .ok text ∧
        ∀ label ∈ diagram.labels,
          StandsIn (labelAssignment label) text ∧
            (IsPlainToken (token label).toList ↔
              ¬Bracketed label ∧ trailingBackslashes label.toList % 2 = 0) := by
  intro functions
  have built := ofFunctions_eq_drawn functions graph
  obtain ⟨text, written, assigned⟩ :=
    (wellFormed_drawn functions graph).exists_dotWrite direction.name
  refine ⟨_, text, built, written, fun label member => ⟨assigned label member, ?_⟩⟩
  have oneLine := Ledger.oneLineFunctions_readAll files
  exact isPlainToken_token_iff (oneLine_of_mem_labels oneLine graph member)

/-- A component is spelled in angle brackets. -/
def bracketedText : String :=
  "// ThreatSpec m for f\n// Sends x from <b>A</b> to B\n"

/-- The label of the component, and that of its zone, is written as markup. -/
theorem bracketedText_not_plain :
    let functions := (Ledger.readAll ∅ [("a.go", bracketedText)]).functions
    ∃ diagram text,
      ofFunctions functions ∅ (.ofFunctions functions) = .ok diagram ∧
        Dot.write diagram "LR" = .ok text ∧
        diagram.labels = ["<b>A</b>", "<b>A</b>", "B", "B"] ∧
        StandsIn (labelAssignment "<b>A</b>") text ∧
        token "<b>A</b>" = "<b>A</b>" ∧
        ¬IsPlainToken (token "<b>A</b>").toList := by
  intro functions
  have built := ofFunctions_eq_drawn functions ∅
  have isLabels : (drawn functions ∅).labels = ["<b>A</b>", "<b>A</b>", "B", "B"] := by
    decide +kernel
  obtain ⟨text, written, assigned⟩ := (wellFormed_drawn functions ∅).exists_dotWrite "LR"
  refine ⟨_, text, built, written, isLabels, assigned _ ?_, by decide +kernel, ?_⟩
  · rw [isLabels]
    exact List.mem_cons_self
  · have oneLine : OneLine "<b>A</b>" := by decide
    rw [isPlainToken_token_iff oneLine]
    exact fun plain => plain.1 ⟨"b>A</b".toList, rfl⟩

end ThreatModel.Diagram
