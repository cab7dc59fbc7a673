import Mathlib.Data.List.Dedup
import Mathlib.Data.List.Infix
import Mathlib.Data.List.Sort
import Mathlib.Data.String.Basic
import ProjectManager.Domain.Text
import ProjectManager.Foundation.SharedNames

/-! # Mentions in comments

A word behind an at sign mentions the candidate that goes by it. Candidates go by
their handle and by three forms of their display name, so that the display name
of one candidate may take over the handle of another.
-/

namespace ProjectManager

open Foundation

structure CollaborationMentionCandidate where
  userId : String
  username : String
  displayName : Option String := none
  deriving DecidableEq

def CollaborationMentionCandidate.handle (candidate : CollaborationMentionCandidate) : String :=
  lower (strip candidate.username)

/-- The characters that a mention is made of. -/
def isMentionChar (c : Char) : Bool := c.isAlphanum || c = '_' || c = '.' || c = '-'

/-- The match of `MENTION_RE` behind an at sign, in lower case. -/
def mentionToken (rest : List Char) : String := lower (String.ofList (rest.takeWhile isMentionChar))

def mentionTokens : List Char → List String
  | [] => []
  | c :: rest =>
      -- A match holds no at sign, so that the scan may go on right behind this one.
      if c = '@' ∧ mentionToken rest ≠ "" then mentionToken rest :: mentionTokens rest
      else mentionTokens rest

def extractMentionTokens (text : String) : List String := mentionTokens text.toList

/-- `text.strip(" @")`. -/
def stripMarks (text : List Char) : String :=
  let isMark := fun c => c = ' ' ∨ c = '@'
  String.ofList ((text.dropWhile isMark).reverse.dropWhile isMark).reverse

def displayAliases (displayName : Option String) : List String :=
  let display := lower (strip (displayName.getD ""))
  if display = "" then []
  else
    [stripMarks display.toList,
      stripMarks (display.toList.filter fun c => c ≠ ' '),
      stripMarks (display.toList.map fun c => if c = ' ' then '.' else c)]

def candidateHandles (candidate : CollaborationMentionCandidate) : List String :=
  (candidate.handle :: displayAliases candidate.displayName).filter fun token => token ≠ ""

def sortedSet (texts : List String) : List String :=
  texts.dedup.insertionSort fun first second => first ≤ second

def handleMap (candidates : List CollaborationMentionCandidate) :
    String → Option CollaborationMentionCandidate :=
  nameOwners candidateHandles candidates

structure ResolvedMentions where
  mentions : List String
  mentionedUserIds : List String
  unresolved : List String
  deriving DecidableEq

def resolveMentions (text : String) (candidates : List CollaborationMentionCandidate) :
    ResolvedMentions :=
  let tokens := extractMentionTokens text
  let found := tokens.filterMap (handleMap candidates)
  { mentions := sortedSet (found.map CollaborationMentionCandidate.handle)
    mentionedUserIds := sortedSet (found.map CollaborationMentionCandidate.userId)
    unresolved := sortedSet (tokens.filter fun token => handleMap candidates token = none) }

/-! ## Sets and tokens -/

theorem mem_sortedSet {texts : List String} {text : String} :
    text ∈ sortedSet texts ↔ text ∈ texts := by
  unfold sortedSet
  rw [(List.perm_insertionSort _ _).mem_iff, List.mem_dedup]

theorem sortedSet_eq_iff {first second : List String} :
    sortedSet first = sortedSet second ↔ ∀ text, text ∈ first ↔ text ∈ second := by
  constructor
  · intro h text
    rw [← mem_sortedSet, h, mem_sortedSet]
  · intro h
    apply List.Perm.eq_of_pairwise' (List.pairwise_insertionSort _ _)
      (List.pairwise_insertionSort _ _)
    apply (List.perm_insertionSort _ _).trans (.trans ?_ (List.perm_insertionSort _ _).symm)
    apply (List.perm_ext_iff_of_nodup (List.nodup_dedup _) (List.nodup_dedup _)).mpr
    intro text
    rw [List.mem_dedup, List.mem_dedup]
    exact h text

/-- A text is in what follows one of the at signs. -/
theorem mem_mentionTokens {token : String} {chars : List Char} :
    token ∈ mentionTokens chars ↔
      ∃ rest, '@' :: rest <:+ chars ∧ mentionToken rest = token ∧ token ≠ "" := by
  induction chars with
  | nil => simp [mentionTokens]
  | cons c chars ih =>
      simp only [List.suffix_cons_iff, List.cons.injEq]
      unfold mentionTokens
      split_ifs with hmatch
      · obtain ⟨rfl, hne⟩ := hmatch
        rw [List.mem_cons, ih]
        constructor
        · rintro (rfl | ⟨rest, hsuffix, hrest⟩)
          · exact ⟨chars, .inl ⟨rfl, rfl⟩, rfl, hne⟩
          · exact ⟨rest, .inr hsuffix, hrest⟩
        · rintro ⟨rest, ⟨-, rfl⟩ | hsuffix, hrest, hne⟩
          · exact .inl hrest.symm
          · exact .inr ⟨rest, hsuffix, hrest, hne⟩
      · rw [ih]
        constructor
        · rintro ⟨rest, hsuffix, hrest⟩
          exact ⟨rest, .inr hsuffix, hrest⟩
        · rintro ⟨rest, ⟨rfl, rfl⟩ | hsuffix, rfl, hne⟩
          · exact absurd ⟨rfl, hne⟩ hmatch
          · exact ⟨rest, hsuffix, rfl, hne⟩

theorem ne_empty_of_mem_candidateHandles {token : String} {candidate : CollaborationMentionCandidate}
    (h : token ∈ candidateHandles candidate) : token ≠ "" :=
  of_decide_eq_true (List.mem_filter.mp h).2

section

variable {text : String} {candidates order : List CollaborationMentionCandidate}

theorem mem_mentionedUserIds {userId : String} :
    userId ∈ (resolveMentions text candidates).mentionedUserIds ↔
      userId ∈ valuesOf candidateHandles CollaborationMentionCandidate.userId candidates
        (extractMentionTokens text) := by
  unfold resolveMentions
  rw [mem_sortedSet, List.mem_map]
  simp only [List.mem_filterMap]
  constructor
  · rintro ⟨owner, ⟨token, htoken, howner⟩, rfl⟩
    exact ⟨token, htoken, owner, howner, rfl⟩
  · rintro ⟨token, htoken, owner, howner, rfl⟩
    exact ⟨owner, ⟨token, htoken, howner⟩, rfl⟩

theorem mentionedUserIds_eq_iff :
    (resolveMentions text order).mentionedUserIds =
        (resolveMentions text candidates).mentionedUserIds ↔
      valuesOf candidateHandles CollaborationMentionCandidate.userId order
          (extractMentionTokens text) =
        valuesOf candidateHandles CollaborationMentionCandidate.userId candidates
          (extractMentionTokens text) := by
  constructor
  · intro h
    ext userId
    rw [← mem_mentionedUserIds, h, mem_mentionedUserIds]
  · intro h
    have hmem : ∀ userId, userId ∈ (resolveMentions text order).mentionedUserIds ↔
        userId ∈ (resolveMentions text candidates).mentionedUserIds := by
      intro userId
      rw [mem_mentionedUserIds, h, mem_mentionedUserIds]
    apply sortedSet_eq_iff.mpr
    intro userId
    simpa only [resolveMentions, mem_sortedSet] using hmem userId

end

/-! ## The named user -/

def FollowsAt (text : String) (rest : List Char) : Prop := '@' :: rest <:+ text.toList

/-- The rest of a text begins with the handle, and the word ends there, or after full stops. -/
def NamedAt (rest : List Char) (candidate : CollaborationMentionCandidate) : Prop :=
  ∃ word stops after, rest = word ++ stops ++ after ∧ word ≠ [] ∧
    lower (String.ofList word) = candidate.handle ∧ (∀ c ∈ stops, c = '.') ∧
      ∀ c ∈ after.head?, isMentionChar c = false

/-- In every order of the candidates, what names a candidate is resolved to it, and the same users
are mentioned. -/
def ResolvesMentions (text : String) (candidates : List CollaborationMentionCandidate) : Prop :=
  ∀ order : List CollaborationMentionCandidate, order.Perm candidates →
    (∀ rest, FollowsAt text rest → ∀ candidate ∈ candidates, NamedAt rest candidate →
      mentionToken rest ∈ extractMentionTokens text ∧
        handleMap order (mentionToken rest) = some candidate) ∧
      (resolveMentions text order).mentionedUserIds =
        (resolveMentions text candidates).mentionedUserIds

/-- The candidate goes by what is read behind the at sign, and no other does. -/
def GoesByAlone (candidates : List CollaborationMentionCandidate) (rest : List Char)
    (candidate : CollaborationMentionCandidate) : Prop :=
  ∀ other ∈ candidates, mentionToken rest ∈ candidateHandles other ↔ other = candidate

/-- Mentions are resolved to the named users exactly when these alone go by what is read, and all
users that may be mentioned are certain. -/
theorem resolvesMentions_iff (text : String) (candidates : List CollaborationMentionCandidate) :
    ResolvesMentions text candidates ↔
      (∀ rest, FollowsAt text rest → ∀ candidate ∈ candidates, NamedAt rest candidate →
        GoesByAlone candidates rest candidate) ∧
      ∀ token ∈ extractMentionTokens text, ∀ owner ∈ candidates, token ∈ candidateHandles owner →
        CertainValue candidateHandles CollaborationMentionCandidate.userId candidates
          (extractMentionTokens text) owner.userId := by
  rw [← forall_perm_valuesOf_iff]
  constructor
  · intro h
    constructor
    · intro rest hrest candidate hmember hnamed
      apply (forall_perm_owner_iff hmember).mp
      intro order hperm
      exact ((h order hperm).1 rest hrest candidate hmember hnamed).2
    · intro order hperm
      exact mentionedUserIds_eq_iff.mp (h order hperm).2
  · intro ⟨halone, hcertain⟩ order hperm
    refine ⟨?_, mentionedUserIds_eq_iff.mpr (hcertain order hperm)⟩
    intro rest hrest candidate hmember hnamed
    have hgoes := halone rest hrest candidate hmember hnamed
    refine ⟨?_, (forall_perm_owner_iff hmember).mpr hgoes order hperm⟩
    have hne := ne_empty_of_mem_candidateHandles ((hgoes candidate hmember).mpr rfl)
    exact mem_mentionTokens.mpr ⟨rest, hrest, rfl, hne⟩

def alice : CollaborationMentionCandidate where
  userId := "U1"
  username := "alice"

/-- A user whose display name is the handle of another one. -/
def namesake : CollaborationMentionCandidate where
  userId := "U2"
  username := "bob"
  displayName := some "Alice"

/-- The handle mentions the namesake, and the order of the candidates decides. -/
theorem not_resolvesMentions_namesake :
    (resolveMentions "@alice" [alice, namesake]).mentionedUserIds = ["U2"] ∧
      (resolveMentions "@alice" [namesake, alice]).mentionedUserIds = ["U1"] ∧
        ¬ ResolvesMentions "@alice" [alice, namesake] := by
  have hfirst : (resolveMentions "@alice" [alice, namesake]).mentionedUserIds = ["U2"] := by
    decide +kernel
  have hsecond : (resolveMentions "@alice" [namesake, alice]).mentionedUserIds = ["U1"] := by
    decide +kernel
  refine ⟨hfirst, hsecond, fun h => ?_⟩
  have hsame := (h [namesake, alice] (List.Perm.swap alice namesake [])).2
  rw [hfirst, hsecond] at hsame
  revert hsame
  decide

/-- Behind a full stop the handle is unknown. -/
example : (resolveMentions "Ask @alice." [alice]).unresolved = ["alice."] := by
  decide +kernel

end ProjectManager
