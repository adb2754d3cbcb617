import ThreatModel.Proofs.Diagram.DotLabels
import ThreatModel.Proofs.Diagram.Identifiers

/-!
Contract: the tokens of nodes and clusters in the DOT language.

Owns:
- that a text without quotes is a token as it is or in quotes, and can be told from
  its token;
- that the name of a cluster is a token as it is;
- that the end of an edge is written as the node of that key is.

Does not own: the tokens of labels.
-/

namespace ThreatModel.Diagram.Dot

open ThreatModel.Component
open ThreatModel.Text

/-! ## Texts without quotes -/

theorem escapeQuotes_of_quoteless
    (escaped : Bool)
    {text : List Char}
    (quoteless : '\x22' ∉ text) :
    escapeQuotes escaped text = text := by
  induction text generalizing escaped with
  | nil => rfl
  | cons character rest inductionHypothesis =>
      rw [List.mem_cons, not_or] at quoteless
      rw [escapeQuotes, if_neg (Ne.symm quoteless.1), inductionHypothesis _ quoteless.2]

theorem tokenChars_of_quoteless
    {text : List Char}
    (quoteless : '\x22' ∉ text) :
    tokenChars text = text ∨ tokenChars text = '\x22' :: (text ++ ['\x22']) := by
  rw [tokenChars, escapeQuotes_of_quoteless false quoteless]
  split
  · exact .inl rfl
  · exact .inr rfl

theorem token_inj
    {text other : String}
    (quoteless : '\x22' ∉ text.toList)
    (otherQuoteless : '\x22' ∉ other.toList)
    (same : token text = token other) :
    text = other := by
  have sameChars : tokenChars text.toList = tokenChars other.toList :=
    String.ofList_injective same
  apply String.toList_injective
  rcases tokenChars_of_quoteless quoteless with bare | quoted
  · rcases tokenChars_of_quoteless otherQuoteless with otherBare | otherQuoted
    · rw [← bare, sameChars, otherBare]
    · rw [bare, otherQuoted] at sameChars
      exact absurd (sameChars ▸ List.mem_cons_self) quoteless
  · rcases tokenChars_of_quoteless otherQuoteless with otherBare | otherQuoted
    · rw [quoted, otherBare] at sameChars
      exact absurd (sameChars ▸ List.mem_cons_self) otherQuoteless
    · rw [quoted, otherQuoted] at sameChars
      exact List.append_cancel_right (List.cons.inj sameChars).2

/-! ## What stands in a token -/

theorem mem_escapeQuotes
    {mark : Char}
    {escaped : Bool}
    {text : List Char}
    (member : mark ∈ escapeQuotes escaped text) :
    mark ∈ text ∨ mark = '\\' := by
  induction text generalizing escaped with
  | nil => cases member
  | cons character rest inductionHypothesis =>
      rw [escapeQuotes] at member
      by_cases isQuote : character = '\x22'
      · rw [if_pos isQuote, List.mem_append] at member
        rcases member with here | later
        · have isMark : mark = '\\' ∨ mark = '\x22' := by
            cases escaped with
            | true => exact .inr (List.mem_singleton.mp here)
            | false => simpa using here
          rcases isMark with isBackslash | isMark
          · exact .inr isBackslash
          · exact .inl (isQuote ▸ isMark ▸ List.mem_cons_self)
        · exact (inductionHypothesis later).imp_left (List.mem_cons_of_mem character)
      · rw [if_neg isQuote, List.mem_cons] at member
        rcases member with rfl | later
        · exact .inl List.mem_cons_self
        · exact (inductionHypothesis later).imp_left (List.mem_cons_of_mem character)

/-- Quoting brings in nothing but quotes and backslashes. -/
theorem not_mem_token
    {mark : Char}
    (noQuote : mark ≠ '\x22')
    (noBackslash : mark ≠ '\\')
    {text : String}
    (absent : mark ∉ text.toList) :
    mark ∉ (token text).toList := by
  rw [token, String.toList_ofList, tokenChars]
  split
  · exact absent
  · intro member
    rw [List.mem_cons, List.mem_append, List.mem_singleton] at member
    rcases member with isQuote | inBody | isQuote
    · exact noQuote isQuote
    · rcases mem_escapeQuotes inBody with inText | isBackslash
      · exact absent inText
      · exact noBackslash isBackslash
    · exact noQuote isQuote

/-! ## Keys -/

section Key

variable {key : String} (isKey : IsKey key)

include isKey

/-- A key has a dash in it, and nothing else but the characters of normal texts. -/
theorem not_mem_key
    {mark : Char}
    (noKeyChar : isKeyChar mark = false)
    (noDash : mark ≠ '-') :
    mark ∉ key.toList := by
  obtain ⟨zone, name, zoneNormal, nameNormal, rfl⟩ := isKey
  simp [zoneNormal.not_mem noKeyChar, nameNormal.not_mem noKeyChar, noDash]

theorem not_mem_token_key
    {mark : Char}
    (noKeyChar : isKeyChar mark = false)
    (noDash : mark ≠ '-')
    (noQuote : mark ≠ '\x22')
    (noBackslash : mark ≠ '\\') :
    mark ∉ (token key).toList :=
  not_mem_token noQuote noBackslash (not_mem_key isKey noKeyChar noDash)

theorem dash_mem_token_key : '-' ∈ (token key).toList := by
  have quoteless : '\x22' ∉ key.toList := not_mem_key isKey (by decide) (by decide)
  have inKey : '-' ∈ key.toList := by
    obtain ⟨zone, name, _, _, rfl⟩ := isKey
    simp
  rw [token, String.toList_ofList]
  rcases tokenChars_of_quoteless quoteless with bare | quoted
  · rwa [bare]
  · rw [quoted]
    exact List.mem_cons_of_mem _ (List.mem_append_left _ inKey)

/-- There is no colon in a key at which the end of an edge would be parted. -/
theorem endpoint_key : endpoint key = token key := by
  have colonless : ∀ character ∈ key.toList, decide (character ≠ ':') = true := by
    intro character member
    have differ : character ≠ ':' := fun isColon =>
      not_mem_key isKey (by decide) (by decide) (isColon ▸ member)
    exact decide_eq_true differ
  have node : key.toList.takeWhile (· ≠ ':') = key.toList :=
    List.takeWhile_eq_self_iff.mpr colonless
  have rest : key.toList.dropWhile (· ≠ ':') = [] := List.dropWhile_eq_nil_iff.mpr colonless
  have parted : splitColon key.toList = (key.toList, []) := by
    rw [splitColon, node, rest, List.drop_nil]
  unfold endpoint
  rw [parted]
  exact congrArg String.ofList (List.append_nil _)

end Key

theorem token_key_inj
    {key other : String}
    (isKey : IsKey key)
    (isOther : IsKey other)
    (same : token key = token other) :
    key = other :=
  token_inj (not_mem_key isKey (by decide) (by decide))
    (not_mem_key isOther (by decide) (by decide)) same

/-! ## Cluster names -/

/-- The name of a cluster is an identifier, and no keyword for its low line. -/
theorem token_clusterName
    {cluster : Cluster}
    (isNormal : IsNormal cluster.key) :
    token cluster.name = cluster.name := by
  have spelled : cluster.name.toList = "cluster_".toList ++ cluster.key.toList :=
    String.toList_append
  have sameLine : '\n' ∉ cluster.name.toList := by
    rw [spelled]
    simp [isNormal.not_mem (by decide : isKeyChar '\n' = false)]
  have isIdentifier : isIdentifier cluster.name.toList = true := by
    have zoneChars : ∀ character ∈ cluster.key.toList,
        (startsIdentifier character || isAsciiDigit character) = true := by
      intro character member
      have isKeyChar := isNormal character member
      rw [Component.isKeyChar, Bool.or_eq_true] at isKeyChar
      rcases isKeyChar with isLetter | isDigit
      · simp [startsIdentifier, isLetter]
      · simp [isAsciiDigit, isDigit]
    rw [spelled]
    simpa [isIdentifier, startsIdentifier] using zoneChars
  have noKeyword : isKeyword cluster.name.toList = false := by
    have withoutLowLine : ∀ keyword ∈ keywords, '_' ∉ keyword.toList := by decide
    have lowLine : '_' ∈ cluster.name.toList.map Char.toLower :=
      List.mem_map.mpr ⟨'_', by simp [spelled], by decide⟩
    rw [isKeyword, Bool.eq_false_iff]
    intro contained
    have absent := withoutLowLine _ (List.contains_iff_mem.mp contained)
    rw [String.toList_ofList] at absent
    exact absent lowLine
  have isBare : isBare cluster.name.toList = true := by
    rw [isBare, dropFinalNewline_of_sameLine sameLine, isIdentifier, noKeyword]
    rfl
  rw [token, tokenChars, isBare, Bool.or_true, if_pos rfl, String.ofList_toList]

end ThreatModel.Diagram.Dot
