import HeaderProbe.Error
import HeaderProbe.Proofs.Text.ShellWords
import HeaderProbe.Query.Parser

namespace HeaderProbe

def quotedLine (words : List Text) : Text :=
  "gen ".toList ++ ShellWords.join (dropLeadingGen words)

theorem split_quotedLine (words : List Text) :
    ShellWords.split (quotedLine words) = .ok ("gen".toList :: dropLeadingGen words) := by
  have hgen : "gen ".toList = ShellWords.quote "gen".toList ++ [' '] := by decide
  rw [quotedLine, hgen, List.append_assoc, List.singleton_append, ShellWords.split_quote_append,
    ShellWords.split_join]
  rfl

theorem dropLeadingGen_gen (words : List Text) : dropLeadingGen ("gen".toList :: words) = words := by
  rw [dropLeadingGen, if_pos rfl]

variable {words : List Text}

theorem Query.ofWords_congr {others : List Text} (h : dropLeadingGen words = dropLeadingGen others)
    (literal : Option Text) (label : Text) : ofWords words literal label = ofWords others literal label := by
  rw [ofWords, ofWords, h]

theorem Query.ofLine_quotedLine (words : List Text) (literal : Option Text) (label : Text) :
    ofLine (quotedLine words) literal label = ofWords words literal label := by
  rw [ofLine, split_quotedLine]
  exact ofWords_congr (dropLeadingGen_gen (dropLeadingGen words)) literal label

theorem Complaint.inWords_eq_grammar {c : Complaint}
    (h : (ProbeError.query (c.inWords words)).errorClass = .catalog) : c.inWords words = .grammar c words := by
  cases c with
  | badPattern source e =>
    rw [inWords] at h ⊢
    split
    · rfl
    · next he =>
      rw [if_neg he] at h
      cases h
  | _ => rfl

theorem Query.exists_of_ofWords_error {literal : Option Text} {label : Text} {e : QueryError}
    (h : ofWords words literal label = .error e) : ∃ c : Complaint, e = c.inWords (dropLeadingGen words) := by
  rw [ofWords] at h
  split at h
  · cases h
  · next c _ =>
    cases h
    exact ⟨c, rfl⟩

theorem Query.refused_as_quoted {literal : Option Text} {label : Text} {e : QueryError}
    (h : ofWords words literal label = .error e) (hclass : (ProbeError.query e).errorClass = .catalog) :
    inQuery ++ quotedLine words <:+ e.message ∧
      ofLine (quotedLine words) literal label = .error e := by
  refine ⟨?_, by rw [ofLine_quotedLine, h]⟩
  obtain ⟨c, rfl⟩ := exists_of_ofWords_error h
  rw [Complaint.inWords_eq_grammar hclass, QueryError.message, List.append_assoc (c.print ++ inQuery),
    List.append_assoc c.print]
  exact List.suffix_append c.print (inQuery ++ quotedLine words)

def misnamedWords : List Text :=
  ["gen", "gen", "if", "fun", "it's \"f\"\n", ""].map String.toList

theorem Query.refused_as_quoted_amid_quotes :
    ∃ e, ofWords misnamedWords none literalMark = .error e ∧
      (ProbeError.query e).errorClass = .catalog ∧
      inQuery ++ quotedLine misnamedWords <:+ e.message ∧
        ofLine (quotedLine misnamedWords) none literalMark = .error e := by
  have hrefused : (match ofWords misnamedWords none literalMark with
      | .ok _ => false
      | .error e => decide ((ProbeError.query e).errorClass = .catalog)) = true := by
    decide +kernel
  cases h : ofWords misnamedWords none literalMark with
  | ok q =>
    rw [h] at hrefused
    cases hrefused
  | error e =>
    rw [h] at hrefused
    have hclass := of_decide_eq_true hrefused
    exact ⟨e, rfl, hclass, refused_as_quoted h hclass⟩

end HeaderProbe
