import Quadrature.Integral
import Quadrature.Proofs.ParameterText

/-! The signature of an integral: its last argument is a pointer. -/

namespace Quadrature.C.Scan

open Lexeme

variable {rest : List Char} {t : String}

def errorArgument (t : String) : Argument := ⟨t ++ " *", Integral.errorName⟩

def errorEntry (t : String) : Specifier × Declarator :=
  (plainSpecifier t, .pointer (.name Integral.errorName))

def Parameter.error (t : String) (ht : t ∈ plainTypes) : Parameter where
  type := t
  tail := [⟨" ", "*", .mark⟩, ⟨" ", Integral.errorName, .word⟩]
  declarator := .pointer (.name Integral.errorName)
  plain := ht
  legible hr := by
    have hspace : ∀ c ∈ " ".toList, isSpace c = true := isSpace_of_lead (by decide)
    refine ⟨⟨hspace, ?_, hspace, ?_, trivial⟩, apart_of_head (c := ' ') (by decide) rfl⟩
    · exact takes_mark (by decide) (by simp [charsOf])
    · exact takes_word (by decide +kernel) hr
  noComma := by simp [Integral.errorName]
  reading hts hns := by
    obtain ⟨star, _, hs, hlast, rfl⟩ := List.forall₂_cons_left_iff.mp hns
    obtain ⟨n, _, hn, ⟨⟩, rfl⟩ := List.forall₂_cons_left_iff.mp hlast
    have hstar : star.isMark "*" = true := isMark_of_shows hs "*"
    exact ⟨1, by decide, parameterReading_pointer ht hts hstar (word?_of_shows hn) (by decide)⟩

lemma text_error (ht : t ∈ plainTypes) : (Parameter.error t ht).text = (errorArgument t).written := by
  rw [← String.toList_inj]
  simp [Parameter.text, Parameter.error, charsOf, errorArgument, Argument.written, Integral.errorName]

structure IntegralSignature (t w : String) (as : List Argument) (signature : String) : Prop where
  head : Declares ⟨t, w⟩
  call : w ∉ Word.callModifiers
  arguments : ∀ a ∈ as, Declares a
  nonempty : as ≠ []
  text : signature = t ++ " " ++ w ++ "(" ++
    Text.join ", " ((as ++ [errorArgument t]).map Argument.written) ++ ")"

lemma scans_prototype {s : State} {w signature : String} {as : List Argument} (hb : s.blank = "")
    (h : IntegralSignature t w as signature) (hr : Starts rest) :
    ∃ s' ts n r q rank xs, Scans s ('\n' :: signature.toList ++ [';', '\n']) (ts ++ [n, r, q]) s' rest ∧
      Prototype t w ts n r q rank (.ofEntries xs) ∧ xs.map Prod.snd = as.map entry ++ [errorEntry t] := by
  obtain ⟨hf, hcall, has, -, rfl⟩ := h
  obtain ⟨params, htexts, hentries⟩ := exists_parameters fun a ha => (has a ha).readable
  have hline : ∀ c ∈ "\n".toList, isSpace c = true := isSpace_of_lead (by decide)
  have hnext : (['\n'] ++ rest).head? ≠ some '=' := by simp
  obtain ⟨s₁, ts, n, r, q, rank, xs, hscan, hproto, hxs⟩ :=
    scans_signature hb hf hcall hline hnext (params ++ [.error t hf.type])
  have htext : (params ++ [Parameter.error t hf.type]).map Parameter.text =
      (as ++ [errorArgument t]).map Argument.written := by
    rw [List.map_append, List.map_append, htexts, List.map_singleton, text_error, List.map_singleton]
  have hall := hscan.trans (scans_newline s₁ hr)
  rw [List.append_nil, htext] at hall
  refine ⟨s₁.pass ['\n'], ts, n, r, q, rank, xs, ?_, hproto, ?_⟩
  · simpa using hall
  · rw [hxs, List.map_append, hentries]
    rfl

end Quadrature.C.Scan
