/-
The lines that the default pattern splits.

A `Complaint` is a line of output as most linters print it: path, line, column and message between colons. Its message may
hold further colons and numbers, and its line may have the digits of any script. The default pattern splits every such line
in one way only: the path ends at the first colon, the numbers where their digits end, and the message begins behind the
blanks and ends with the line.

Results:
- `readPattern_defaultPattern`: the tree of the default pattern;
- `search?_complaint`: a complaint is matched, and each group captures its part.
-/
import ChangeLint.Proofs.Checker.Formatter
import ChangeLint.Proofs.Pattern.Preference
import ChangeLint.Proofs.Text.Blank

namespace ChangeLint.Checker.Formatter

open Pattern Text

/-! ## The tree -/

/-- blanks, as many as there are -/
def blanks : Expr := .again .greedy 0 none (.chars false [.category .space false])

/-- digits, as many as there are, in a group -/
def numberGroup (g : Nat) : Expr := .group (some g) [] [] (.again .greedy 1 none (.chars false [.category .digit false]))

/-- a path up to a colon, in the first group -/
def pathGroup : Expr := .group (some 1) [] [] (.again .lazy 1 none (.chars true [.code 58, .code 10]))

/-- a message, as short as may be, in the fourth group -/
def messageGroup : Expr := .group (some 4) [] [] (.again .lazy 1 none .anyChar)

/-- the end of a line, behind blanks -/
def lineEnd : Expr := .seq blanks (.anchor .lineEnd)

/-- the default pattern -/
def defaultTree : Pattern where
  body := .seq (.anchor .lineStart) (.seq pathGroup (.seq (.code 58) (.seq (numberGroup 2) (.seq (.code 58)
    (.seq (numberGroup 3) (.seq (.code 58) (.seq blanks (.seq messageGroup lineEnd))))))))
  flags := [.unicode]
  names := [("path", 1), ("line", 2), ("column", 3), ("message", 4)]
  widths := none :: List.replicate 4 (some ⟨1, Width.limit⟩)

deriving instance DecidableEq for Pattern.Expr
deriving instance DecidableEq for ChangeLint.Pattern

/-- **The default pattern** is read as its tree -/
theorem readPattern_defaultPattern [Interpreter] : readPattern defaultPattern = .ok defaultTree := by
  have hgrammar : @Pattern.grammar (charactersOf []) defaultPattern.toList = .ok defaultTree :=
    toOption_eq_some (by decide +kernel)
  rw [readPattern, read_defaultPattern, hgrammar]
  rfl

theorem isTelling_defaultTree : isTelling defaultTree = true := by decide +kernel

/-! ## Complaints -/

/-- a line of output with a path, a line, a column and a message between colons, and blanks before the message -/
structure Complaint where
  path : List Char
  line : List Char
  column : List Char
  gap : List Char
  message : List Char
  path_ne : path ≠ []
  line_ne : line ≠ []
  column_ne : column ≠ []
  message_ne : message ≠ []
  path_colon : ':' ∉ path
  path_newline : '\n' ∉ path
  line_digits : ∀ c ∈ line, isDigit c = true
  column_digits : ∀ c ∈ column, isDigit c = true
  gap_blank : ∀ c ∈ gap, isBlank c = true
  message_newline : '\n' ∉ message
  message_begins : ∀ c ∈ message.head?, isBlank c = false
  message_ends : ∀ c ∈ message.getLast?, isBlank c = false

/-- the text of a complaint -/
def Complaint.text (x : Complaint) : String :=
  String.ofList (x.path ++ ':' :: (x.line ++ ':' :: (x.column ++ ':' :: (x.gap ++ x.message))))

variable {widths : List (Option Width)} {flags : Flags} {k : Next} {s r t : State} {c : Char} {u rest : List Char}
variable {body : Expr} {greed : Greed} {least : Nat} {most : Option Nat}

/-! ## The pieces of the pattern -/

/-- a character counts as no code point but its own -/
theorem not_candidate {n : Nat} {d : Char} (h : c ≠ d) (hn : d.toNat = n) :
    (candidates [.unicode] c).contains n = false := by
  rw [candidates_eq rfl, List.contains_eq_mem, decide_eq_false_iff_not, List.mem_singleton, ← hn, Char.toNat_inj]
  exact h.symm

theorem setHas_plain (hcolon : c ≠ ':') (hnewline : c ≠ '\n') :
    setHas [.unicode] true [.code 58, .code 10] c = true := by
  have hcolon' : (candidates [.unicode] c).contains 58 = false := not_candidate hcolon rfl
  have hnewline' : (candidates [.unicode] c).contains 10 = false := not_candidate hnewline rfl
  rw [setHas, List.any_cons, List.any_cons, Item.has, Item.has, hcolon', hnewline']
  rfl

theorem setHas_digit : setHas [.unicode] false [.category .digit false] c = isDigit c := by
  simp [setHas, Item.has, Category.has]

theorem setHas_space : setHas [.unicode] false [.category .space false] c = isBlank c := by
  simp [setHas, Item.has, Category.has]

theorem leads_colon (hahead : s.ahead = ':' :: rest) : Leads widths [.unicode] k (.code 58) s (s.past [':'] rest) :=
  leads_code hahead (by decide)

/-- a path goes up to the first colon -/
theorem leads_path {next : Expr} (hahead : s.ahead = u ++ ':' :: rest) (hne : u ≠ []) (hcolon : ':' ∉ u)
    (hnewline : '\n' ∉ u) : Leads widths [.unicode] ((Expr.seq (.code 58) next).match? widths [.unicode] k) pathGroup s
      ((s.past u (':' :: rest)).capture 1 u) := by
  refine leads_capture (leads_lazy (fun _ => rfl) hahead (fun c hc => ?_) (List.length_pos_iff.2 hne) ?_)
  · exact setHas_plain (ne_of_mem_of_not_mem hc hcolon) (ne_of_mem_of_not_mem hc hnewline)
  -- before its end no colon follows
  · intro v w hw huvw
    refine one_eq_none fun c hc => ?_
    obtain ⟨d, w, rfl⟩ := List.exists_cons_of_ne_nil hw
    obtain rfl : d = c := Option.some.inj hc
    have hd : d ∈ u := by simp [huvw]
    exact not_candidate (ne_of_mem_of_not_mem hd hcolon) rfl

/-- a number goes as far as its digits -/
theorem leads_number {g : Nat} (hahead : s.ahead = u ++ ':' :: rest) (hne : u ≠ []) (hu : ∀ c ∈ u, isDigit c = true) :
    Leads widths [.unicode] k (numberGroup g) s ((s.past u (':' :: rest)).capture g u) := by
  refine leads_capture (leads_greedy (fun _ => rfl) hahead (fun c hc => setHas_digit.trans (hu c hc))
    (List.length_pos_iff.2 hne) ?_)
  intro c hc
  obtain rfl : ':' = c := Option.some.inj hc
  rfl

theorem leads_blanks (hahead : s.ahead = u ++ rest) (hu : ∀ c ∈ u, isBlank c = true)
    (hrest : ∀ c ∈ rest.head?, isBlank c = false) : Leads widths [.unicode] k blanks s (s.past u rest) :=
  leads_greedy (fun _ => rfl) hahead (fun c hc => setHas_space.trans (hu c hc)) (Nat.zero_le _)
    fun c hc => setHas_space.trans (hrest c hc)

theorem leads_lineEnd (hahead : s.ahead = []) : Leads widths [.unicode] k lineEnd s s := by
  have hblanks : Leads widths [.unicode] ((Expr.anchor .lineEnd).match? widths [.unicode] k) blanks s (s.past [] []) :=
    leads_blanks hahead (by simp) (by simp)
  rw [State.past_nil [] hahead] at hblanks
  exact leads_seq hblanks (leads_anchor (by simp [Anchor.holds, hahead]))

/-- what a repetition takes is made of what its body takes -/
theorem forall_of_way_again {P : Char → Prop} (h : Way widths flags (.again greed least most body) s u r)
    (hbody : ∀ {s v r}, Way widths flags body s v r → ∀ c ∈ v, P c) : ∀ c ∈ u, P c := by
  generalize he : Expr.again greed least most body = e at h
  induction h generalizing least most with
  | stop => exact fun c hc => absurd hc List.not_mem_nil
  | must turn more _ ih | may _ turn more _ ih =>
    cases he
    exact fun c hc => (List.mem_append.1 hc).elim (hbody turn c) (ih hbody rfl c)
  | _ => cases he

/-- before the end of a line there are only blanks -/
theorem isBlank_of_lineEnd (h : lineEnd.match? widths [.unicode] k s = some t) : ∀ c ∈ s.ahead, isBlank c = true := by
  obtain ⟨u, r, hway, -⟩ := way_of_match? h
  cases hway with
  | @seq _ _ _ _ r' _ u v hblanks hend =>
    have hblank : ∀ c ∈ u, isBlank c = true := by
      refine forall_of_way_again hblanks fun hturn c hc => ?_
      cases hturn with
      | chars _ hset => exact List.mem_singleton.1 hc ▸ setHas_space.symm.trans hset
    have hrest : ∀ c ∈ r'.ahead, isBlank c = true := by
      cases hend with
      | anchor hholds =>
        simp only [Anchor.holds, Bool.or_eq_true, List.isEmpty_iff, beq_iff_eq] at hholds
        rcases hholds with (hnil | hnewline) | hmultiline
        · simp [hnil]
        · rw [hnewline]
          exact fun c hc => List.mem_singleton.1 hc ▸ rfl
        · exact absurd hmultiline (by simp)
    rw [hblanks.moves.1]
    exact fun c hc => (List.mem_append.1 hc).elim (hblank c) (hrest c)

/-- a message goes to the end of the line: what is left at any place before it ends with a character that is no blank -/
theorem leads_message (hahead : s.ahead = u) (hne : u ≠ []) (hu : '\n' ∉ u)
    (hlast : ∀ c ∈ u.getLast?, isBlank c = false) :
    Leads widths [.unicode] (lineEnd.match? widths [.unicode] k) messageGroup s ((s.past u []).capture 4 u) := by
  have hbody : ∀ k, Expr.anyChar.match? widths [.unicode] k = one (fun c => c != '\n') k := fun _ => rfl
  refine leads_capture (leads_lazy hbody (hahead.trans (List.append_nil u).symm)
    (fun c hc => bne_iff_ne.2 (ne_of_mem_of_not_mem hc hu)) (List.length_pos_iff.2 hne) ?_)
  intro v w hw huvw
  refine Option.eq_none_iff_forall_ne_some.2 fun t ht => ?_
  have hlastw : w.getLast hw ∈ u.getLast? := by
    rw [huvw, List.getLast?_append_of_ne_nil _ hw, List.getLast?_eq_some_getLast hw]
    rfl
  have hblank := isBlank_of_lineEnd ht (w.getLast hw) (by simp [State.capture])
  rw [hlast _ hlastw] at hblank
  cases hblank

/-! ## Whole lines -/

/-- **A complaint is matched**, and each group captures its part -/
theorem search?_complaint (x : Complaint) : ∃ m, defaultTree.search? x.text.toList = some m ∧
    m.groups = [(4, x.message), (3, x.column), (2, x.line), (1, x.path)] := by
  rw [Complaint.text, String.toList_ofList]
  exact ⟨_, search?_of_leads <|
    leads_seq (leads_anchor rfl) <|
    leads_seq (leads_path rfl x.path_ne x.path_colon x.path_newline) <|
    leads_seq (leads_colon rfl) <|
    leads_seq (leads_number rfl x.line_ne x.line_digits) <|
    leads_seq (leads_colon rfl) <|
    leads_seq (leads_number rfl x.column_ne x.column_digits) <|
    leads_seq (leads_colon rfl) <|
    leads_seq (leads_blanks rfl x.gap_blank x.message_begins) <|
    leads_seq (leads_message rfl x.message_ne x.message_newline x.message_ends) <|
    leads_lineEnd rfl, rfl⟩

end ChangeLint.Checker.Formatter
