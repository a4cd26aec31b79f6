import CommandLine.Proofs.Layout
import CommandLine.Proofs.Move

/-!
# Sources of pieces

Every piece of a layout stands for something in the command line: a positional piece for an
argument, and any other piece for a head in front of the first `--`. What a piece takes stands right
behind its head, and an option that needs a text gets none only if no positional argument follows.
-/

namespace CommandLine

/-! ### Clauses in a command line -/

/-- The positional arguments in front of the first head, and what comes behind them. -/
lemma exists_clauses_fst (arguments : List String) :
    ∃ after, arguments = (clauses arguments).1 ++ after ∧
      (∀ text ∈ (clauses arguments).1, isLoose text = true) ∧
      ∀ next ∈ after.head?, isLoose next = false := by
  induction arguments with
  | nil => exact ⟨[], by simp⟩
  | cons argument rest ih =>
    cases hloose : isLoose argument with
    | true =>
      obtain ⟨after, hsplit, htexts, hnext⟩ := ih
      rw [clauses_cons_of_isLoose hloose]
      refine ⟨after, by rw [List.cons_append, ← hsplit], ?_, hnext⟩
      intro text htext
      rcases List.mem_cons.mp htext with rfl | hrest
      · exact hloose
      · exact htexts text hrest
    | false =>
      rw [clauses_cons_of_not_isLoose hloose]
      exact ⟨argument :: rest, by simp [hloose]⟩

/-- A clause stands somewhere in the arguments, up to the next head. -/
lemma exists_of_mem_clauses {arguments : List String} {clause : Clause}
    (h : clause ∈ (clauses arguments).2) :
    ∃ before after, arguments = before ++ clause.head :: (clause.followers ++ after) ∧
      (∀ text ∈ clause.followers, isLoose text = true) ∧
      ∀ next ∈ after.head?, isLoose next = false := by
  have hlater {argument : String} {rest : List String}
      (h : ∃ before after, rest = before ++ clause.head :: (clause.followers ++ after) ∧
        (∀ text ∈ clause.followers, isLoose text = true) ∧
        ∀ next ∈ after.head?, isLoose next = false) :
      ∃ before after, argument :: rest = before ++ clause.head :: (clause.followers ++ after) ∧
        (∀ text ∈ clause.followers, isLoose text = true) ∧
        ∀ next ∈ after.head?, isLoose next = false := by
    obtain ⟨before, after, rfl, hfollows⟩ := h
    exact ⟨argument :: before, after, rfl, hfollows⟩
  induction arguments with
  | nil => simp at h
  | cons argument rest ih =>
    cases hloose : isLoose argument with
    | true =>
      rw [clauses_cons_of_isLoose hloose] at h
      exact hlater (ih h)
    | false =>
      rw [clauses_cons_of_not_isLoose hloose] at h
      rcases List.mem_cons.mp h with rfl | hrest
      · obtain ⟨after, hsplit, hfollows⟩ := exists_clauses_fst rest
        exact ⟨[], after, congrArg (List.cons argument) hsplit, hfollows⟩
      · exact hlater (ih hrest)

lemma isLoose_terminator : isLoose "--" = false := by
  rw [isLoose, classify_eq_terminator_iff.mpr rfl]
  rfl

/-- The clause stands in the command line in front of the first `--`. -/
structure Clause.Stands (arguments : List String) (clause : Clause) : Prop where
  split : ∃ before after, arguments = before ++ clause.head :: (clause.followers ++ after) ∧
    "--" ∉ before ∧ ∀ next ∈ after.head?, isLoose next = false
  head : clause.head ∈ beforeTerminator arguments
  followers : ∀ text ∈ clause.followers, text ∈ beforeTerminator arguments ∧ isLoose text = true

lemma Clause.stands_of_mem_clauses {arguments : List String} {clause : Clause}
    (h : clause ∈ (clauses (beforeTerminator arguments)).2) : clause.Stands arguments := by
  obtain ⟨before, after, hsplit, hfollowers, hnext⟩ := exists_of_mem_clauses h
  have hopen : "--" ∉ before := by
    intro hmem
    exact not_mem_beforeTerminator arguments (hsplit ▸ List.mem_append_left _ hmem)
  refine ⟨?_, by simp [hsplit], fun text htext => ⟨by simp [hsplit, htext], hfollowers text htext⟩⟩
  rcases eq_beforeTerminator_or arguments with ⟨hall, -⟩ | hcut
  · exact ⟨before, after, hall.trans hsplit, hopen, hnext⟩
  · refine ⟨before, after ++ "--" :: afterTerminator arguments, ?_, hopen, ?_⟩
    · conv_lhs => rw [hcut, hsplit]
      simp only [List.append_assoc, List.cons_append]
    · cases after with
      | nil =>
        intro next hmem
        obtain rfl : "--" = next := by simpa using hmem
        exact isLoose_terminator
      | cons first others => exact hnext

/-! ### Pieces of a clause -/

/-- What a piece says about the head and the followers of its clause. -/
inductive Piece.Stands (model : Model) (head : String) (followers : List String) : Piece → Prop
  | option {mention : Mention} {inline : Option String} {taken : List String}
      (hwrites : model.Writes head mention inline) (htaken : taken <+: followers)
      (hhungry : mention.kind.isFlag = false → inline = none → taken = [] → followers = []) :
      Stands model head followers (.option mention inline taken)
  | unknownLong {name : String} {value : Option String} (hshape : classify head = .long name value)
      (hname : name ≠ "") (hunknown : model.mentionLong? name = none) :
      Stands model head followers (.unknown name head value)
  | unknownShort {cluster : Cluster} {letter : Char} {rest : String}
      (hshape : classify head = .short cluster) (hmem : (letter, rest) ∈ cluster.options)
      (hunknown : model.mentionShort? letter = none) :
      Stands model head followers (.unknown (String.singleton letter) head none)
  | malformed {value : Option String} (hshape : classify head = .long "" value) :
      Stands model head followers (.malformed head)
  | positional {text : String} (hmem : text ∈ followers) :
      Stands model head followers (.positional text)

namespace Piece

variable {model : Model} {head : String}

lemma stands_of_mem_attach_single {last piece : Piece} (hlast : last.Stands model head [])
    {followers : List String} (h : piece ∈ attach [last] followers) :
    piece.Stands model head followers := by
  rcases List.mem_cons.mp h with rfl | hrest
  · cases hlast with
    | @option mention inline taken hwrites htaken hhungry =>
      -- an option that still needs a text has the appetite for at least one
      refine .option hwrites (List.take_prefix _ _) fun hflag hinline htake => ?_
      rw [appetite, hflag, if_neg (by simp), if_pos hinline] at htake
      split_ifs at htake
      · rwa [List.take_length] at htake
      · simpa using htake
    | unknownLong hshape hname hunknown => exact .unknownLong hshape hname hunknown
    | unknownShort hshape hmem hunknown => exact .unknownShort hshape hmem hunknown
    | malformed hshape => exact .malformed hshape
    | positional hmem => simp at hmem
  · obtain ⟨text, htext, rfl⟩ := List.mem_map.mp hrest
    exact .positional (List.mem_of_mem_drop htext)

lemma stands_of_mem_cluster {cluster : Cluster} (hshape : classify head = .short cluster)
    {letters : List (Char × String)} (hsub : ∀ entry ∈ letters, entry ∈ cluster.options)
    {followers : List String} {piece : Piece}
    (h : piece ∈ attach (model.clusterPieces head letters) followers) :
    piece.Stands model head followers := by
  -- a flag is followed by the other letters, and only the last letter that is read takes followers
  induction letters with
  | nil =>
    obtain ⟨text, htext, rfl⟩ := List.mem_map.mp h
    exact .positional htext
  | cons entry others ih =>
    obtain ⟨letter, rest⟩ := entry
    have hmem := hsub (letter, rest) (by simp)
    rw [Model.clusterPieces] at h
    cases hm : model.mentionShort? letter with
    | none =>
      simp only [hm] at h
      exact stands_of_mem_attach_single (.unknownShort hshape hmem hm) h
    | some mention =>
      simp only [hm] at h
      cases hflag : mention.kind.isFlag with
      | false =>
        rw [hflag, if_neg (by simp)] at h
        exact stands_of_mem_attach_single
          (.option (.short hshape hmem hm hflag) List.prefix_rfl fun _ _ _ => rfl) h
      | true =>
        rw [hflag, if_pos rfl] at h
        have hwrites := Model.Writes.flag hshape hmem hm hflag
        by_cases hothers : model.clusterPieces head others = []
        · rw [hothers] at h
          exact stands_of_mem_attach_single (.option hwrites List.prefix_rfl fun _ _ _ => rfl) h
        · rw [attach_cons_of_ne_nil hothers] at h
          rcases List.mem_cons.mp h with rfl | hlater
          · exact .option hwrites List.nil_prefix fun hnone => by simp [hflag] at hnone
          · exact ih (fun entry hentry => hsub entry (by simp [hentry])) hlater

lemma stands_of_mem_clausePieces {clause : Clause} {piece : Piece}
    (h : piece ∈ model.clausePieces clause) :
    piece.Stands model clause.head clause.followers := by
  rw [Model.clausePieces] at h
  cases hshape : classify clause.head with
  | terminator =>
    rw [hshape] at h
    obtain ⟨text, htext, rfl⟩ := List.mem_map.mp h
    exact .positional htext
  | positional text =>
    rw [hshape] at h
    obtain ⟨text, htext, rfl⟩ := List.mem_map.mp h
    exact .positional htext
  | short cluster =>
    rw [hshape] at h
    exact stands_of_mem_cluster hshape (fun _ hentry => hentry) h
  | long name value =>
    rw [hshape, Model.headPieces] at h
    split_ifs at h with hname
    · subst hname
      exact stands_of_mem_attach_single (.malformed hshape) h
    · cases hm : model.mentionLong? name with
      | none =>
        rw [hm] at h
        exact stands_of_mem_attach_single (.unknownLong hshape hname hm) h
      | some mention =>
        rw [hm] at h
        exact stands_of_mem_attach_single
          (.option (.long hshape hm) List.prefix_rfl fun _ _ _ => rfl) h

/-- A piece of a layout is positional and stands for an argument, or it stands in a clause. -/
theorem stands_of_mem_layout {arguments : List String} {piece : Piece}
    (h : piece ∈ model.layout arguments) :
    (∃ text ∈ arguments, piece = .positional text) ∨
      ∃ clause : Clause, clause.Stands arguments ∧
        piece.Stands model clause.head clause.followers := by
  rw [Model.layout, List.mem_append, Model.openPieces, List.mem_append] at h
  rcases h with (hfirst | hclause) | hlast
  · obtain ⟨text, htext, rfl⟩ := List.mem_map.mp hfirst
    obtain ⟨after, hsplit, -⟩ := exists_clauses_fst (beforeTerminator arguments)
    have hopen : text ∈ beforeTerminator arguments := hsplit ▸ List.mem_append_left _ htext
    exact .inl ⟨text, (List.takeWhile_prefix _).subset hopen, rfl⟩
  · obtain ⟨clause, hmem, hpiece⟩ := List.mem_flatMap.mp hclause
    exact .inr ⟨clause, Clause.stands_of_mem_clauses hmem, stands_of_mem_clausePieces hpiece⟩
  · obtain ⟨text, htext, rfl⟩ := List.mem_map.mp hlast
    exact .inl ⟨text, (List.dropWhile_suffix _).subset (List.mem_of_mem_tail htext), rfl⟩

end Piece

end CommandLine
