import TurnRouter.Proofs.CommandLine.Arguments
import TurnRouter.Proofs.CommandLine.Endings
import TurnRouter.Proofs.Routing.Search

/-! # What reports tell of dispatch

Reports and dispatch check the rules apart from one another. The summary that a run prints last names
the handler that wins when all callbacks answer, and it counts the handlers that are called when none
of them does.
-/
namespace TurnRouter
open CommandLine

variable {γ σ : Type}

namespace Rule
variable (ctx : Context) (opts : Options) (rule : Text)

theorem check_eq_ok_iff {b : Bool} : check ctx opts rule = .ok b ↔
    (report ctx opts rule).matched = some b ∧ (report ctx opts rule).error = none := by
  rw [Report.matched, Report.error, verdict_report]
  cases check ctx opts rule <;> simp [Except.toOption]

theorem check_eq_error_iff {text : Text} :
    (∃ e, check ctx opts rule = .error e ∧ e.message = text) ↔
      (report ctx opts rule).matched = none ∧ (report ctx opts rule).error = some text := by
  rw [Report.matched, Report.error, verdict_report]
  cases check ctx opts rule <;> simp [Except.toOption]

end Rule

section Search
variable {ctx : Context} {opts : Options}

theorem isMatch_report (h : Handler γ) :
    (Rule.report ctx opts h.rule).isMatch = h.holds ctx opts := by
  rw [Rule.Report.isMatch, Rule.Report.matched, Rule.verdict_report, Handler.holds]

theorem isSome_error_report (h : Handler γ) :
    (Rule.report ctx opts h.rule).error.isSome = h.broken ctx opts := by
  rw [Rule.Report.error, Rule.verdict_report, Handler.broken]
  cases Rule.check ctx opts h.rule <;> rfl

end Search

namespace CommandLine

def matchCount (reports : List TimedReport) : Nat := reports.countP fun r => r.report.isMatch
def errorCount (reports : List TimedReport) : Nat := reports.countP fun r => r.report.error.isSome

/-- The place of the first report on a rule that matches. -/
def firstMatch (reports : List TimedReport) : Option Nat :=
  reports.findIdx? fun r => r.report.isMatch

/-- A text in a style of the terminal, which has a code. -/
def styled (color : Bool) (code : String) (s : Text) : Text :=
  if color then "\x1b[".toList ++ code.toList ++ 'm' :: s ++ "\x1b[0m".toList else s

/-- The summary of so many rules, of which so many match, and first the one at a place. -/
def summaryText (color : Bool) (total matched : Nat) (first : Option Nat) : Text :=
  '\n' :: styled color "90" "━━━ Summary ━━━".toList ++ "\n  ".toList
    ++ styled color "32" (Text.ofNat matched) ++ " of ".toList ++ Text.ofNat total
    ++ " rules matched  │  first match: ".toList
    ++ first.elim (styled color "2" "none".toList)
      (fun i => styled color "1" ('[' :: Text.ofNat i ++ [']']))
    ++ "\n\n".toList

theorem unlines_append (lines more : List Text) :
    unlines (lines ++ more) = unlines lines ++ unlines more := List.flatMap_append

theorem unlines_summaryLines (color : Bool) (reports : List TimedReport) :
    unlines (summaryLines (paint color) reports) =
      summaryText color reports.length (matchCount reports) (firstMatch reports) := by
  have hcount : (reports.filter (·.report.isMatch)).length = matchCount reports :=
    List.countP_eq_length_filter.symm
  rw [summaryLines, hcount, summaryText, firstMatch]
  cases reports.findIdx? (·.report.isMatch) <;> cases color <;>
    simp [unlines, heading, paint, styled, escapeSequence, Style.code, place]

theorem textOutput_summary (color : Bool) (turn : Context) (reports : List TimedReport) :
    summaryText color reports.length (matchCount reports) (firstMatch reports) <:+
      textOutput color turn reports := by
  rw [← unlines_summaryLines, textOutput, unlines_append]
  exact List.suffix_append ..

/-- The reports are about the rules of the handlers, in their order. -/
def ReportsOn (ctx : Context) (opts : Options) (handlers : List (Handler γ))
    (reports : List TimedReport) : Prop :=
  reports.map TimedReport.report = handlers.map fun h => Rule.report ctx opts h.rule

/-- So are the reports of a run on these rules, whatever time each of them took. -/
theorem reportsOn_rules (ctx : Context) (opts : Options) (handlers : List (Handler γ))
    (timing : Text → Timing) :
    ReportsOn ctx opts handlers ((handlers.map Handler.rule).map fun rule =>
      ⟨Rule.report ctx opts rule, timing rule⟩) := by
  simp only [ReportsOn, List.map_map, Function.comp_def]

namespace ReportsOn
variable {ctx : Context} {opts : Options} {handlers : List (Handler γ)} {reports : List TimedReport}
  (h : ReportsOn ctx opts handlers reports)
include h

theorem length_eq : reports.length = handlers.length := by
  simpa using congrArg List.length h

theorem countP_eq (q : Rule.Report → Bool) :
    (reports.countP fun r => q r.report) =
      handlers.countP fun h => q (Rule.report ctx opts h.rule) := by
  rw [← Function.comp_def q, ← List.countP_map, h, List.countP_map, Function.comp_def]

theorem findIdx?_eq (q : Rule.Report → Bool) :
    (reports.findIdx? fun r => q r.report) =
      handlers.findIdx? fun h => q (Rule.report ctx opts h.rule) := by
  rw [← Function.comp_def q, ← List.findIdx?_map, h, List.findIdx?_map, Function.comp_def]

theorem errorCount_eq : errorCount reports = failures ctx opts handlers := by
  rw [errorCount, h.countP_eq fun r => r.error.isSome]
  simp only [isSome_error_report, failures]

theorem matchCount_eq : matchCount reports = (matching ctx opts handlers).length := by
  rw [matchCount, h.countP_eq Rule.Report.isMatch, length_matchingFrom]
  simp only [isMatch_report]

theorem firstMatch_eq : firstMatch reports = (matching ctx opts handlers).head? := by
  rw [firstMatch, h.findIdx?_eq Rule.Report.isMatch, head?_matchingFrom]
  simp only [isMatch_report, Nat.zero_add, Option.map_id']

end ReportsOn
end CommandLine

/-- Every callback answers in every state, and no answer settles more or less than told. -/
def Answering (invoke : γ → Effect σ (Option Json)) (handlers : List (Handler γ))
    (inconclusive : Bool) : Prop :=
  ∀ h ∈ handlers, ∀ s, ∃ answer, (Effect.result (invoke h.callback) s).1 = .ok answer ∧
    Json.inconclusive answer = inconclusive

section Dispatch
variable {ctx : Context} {opts : Options} {invoke : γ → Effect σ (Option Json)}
  {handlers : List (Handler γ)} {inconclusive : Bool}

theorem Answering.reply {s t : σ} {calls : List (Call Nat)}
    (ha : Answering invoke handlers inconclusive)
    (hperforms : Performs (callbackAt invoke handlers) s calls t) :
    ∀ c ∈ calls, ∃ answer, c.reply = .ok answer ∧ Json.inconclusive answer = inconclusive := by
  intro c hc
  obtain ⟨m, u, hwork, hreply⟩ := hperforms.exists_of_mem hc
  obtain ⟨h, hget, rfl⟩ := Option.map_eq_some_iff.mp hwork
  obtain ⟨answer, hanswer, hkind⟩ := ha h (List.mem_of_getElem? hget) u
  exact ⟨answer, hreply.symm.trans hanswer, hkind⟩

theorem dispatch_answering (ha : Answering invoke handlers inconclusive) (s : σ) :
    ∃ o t calls, Effect.result (dispatch ctx opts invoke handlers) s = (.ok o, t) ∧
      Asked (matching ctx opts handlers) calls (.ok o.answer) ∧
      (∀ c ∈ calls, c.reply.passes = inconclusive) ∧
      o.tally.matched = calls.length ∧ Accounts ctx opts handlers calls o := by
  obtain ⟨calls, t, outcome, hresult, hperforms, hasked, haccounts⟩ :=
    dispatch_search ctx opts invoke handlers s
  have hreplies := ha.reply hperforms
  obtain ⟨answer, hout⟩ := hasked.out_ok fun c hc => (hreplies c hc).imp fun _ h => h.1
  obtain ⟨o, rfl, -⟩ := map_eq_ok.mp hout
  obtain ⟨hmatched, hall⟩ := haccounts o rfl
  refine ⟨o, t, calls, hresult, hasked, ?_, hmatched, hall⟩
  intro c hc
  obtain ⟨answer, hreply, hkind⟩ := hreplies c hc
  rw [hreply, Reply.passes_ok, hkind]

theorem dispatch_conclusive (ha : Answering invoke handlers false) (s : σ) :
    ∃ o t, Effect.result (dispatch ctx opts invoke handlers) s = (.ok o, t) ∧
      o.tally.winner = (matching ctx opts handlers).head? := by
  obtain ⟨o, t, calls, hresult, hasked, hsettle, -, hall⟩ := dispatch_answering ha s
  have hsites : calls.map Call.site = (matching ctx opts handlers).head?.toList :=
    hasked.sites_of_settling hsettle
  refine ⟨o, t, hresult, ?_⟩
  obtain ⟨w, hlast, -, hwinner, -⟩ | ⟨hpass, -, hwinner, -⟩ := hall.ending
  · have hsite : (calls.map Call.site).getLast? = some w := by
      rw [List.getLast?_map, hlast, Option.map_some]
    rw [hsites] at hsite
    cases hhead : (matching ctx opts handlers).head? with
    | none => simp [hhead] at hsite
    | some v =>
      have hlast : v = w := by simpa [hhead] using hsite
      rw [hwinner, hlast]
  · have hnone : calls = [] := by
      refine List.eq_nil_iff_forall_not_mem.mpr fun c hc => ?_
      have hopen : c.reply.passes = true := hpass c hc
      rw [hsettle c hc] at hopen
      cases hopen
    rw [hnone, List.map_nil] at hsites
    rw [hwinner, Option.toList_eq_nil_iff.mp hsites.symm]

theorem dispatch_inconclusive (ha : Answering invoke handlers true) (s : σ) :
    ∃ o t, Effect.result (dispatch ctx opts invoke handlers) s = (.ok o, t) ∧
      o.tally.matched = (matching ctx opts handlers).length ∧
      o.tally.errors = failures ctx opts handlers := by
  obtain ⟨o, t, calls, hresult, hasked, hpass, hmatched, hall⟩ := dispatch_answering ha s
  have hopen : Json.inconclusive o.answer = true := by
    obtain ⟨i, hlast, -⟩ | ⟨-, -, hnone⟩ := hasked.ending
    · exact hpass _ (List.mem_of_getLast? hlast)
    · rw [Except.ok.inj hnone]
      rfl
  have hsites : calls.map Call.site = matching ctx opts handlers := by
    obtain ⟨i, -, hsettled⟩ | ⟨hsites, -, -⟩ := hasked.ending
    · exact absurd hopen (Bool.eq_false_iff.mp hsettled)
    · exact hsites
  have hevaluated : o.tally.evaluated = handlers.length := by
    obtain ⟨w, -, hsettled, -, -⟩ | ⟨-, -, -, hevaluated⟩ := hall.ending
    · exact absurd hopen (Bool.eq_false_iff.mp hsettled)
    · exact hevaluated
  refine ⟨o, t, hresult, ?_, ?_⟩
  · rw [hmatched, ← hsites, List.length_map]
  · rw [hall.errors, hevaluated, List.take_length]

end Dispatch

section Printing
variable {color : Bool} {timing : Timing} {inputs : Inputs} {args : List Text}
  {settings : Settings} {request : Request}

/-- A run that prints texts ends with the summary of the reports on its rules. -/
theorem run_summary (hparse : parse color args = .ok (.evaluate settings))
    (hload : loadRequest settings inputs = .ok request) (htext : settings.json = false)
    {handlers : List (Handler γ)} (hrules : handlers.map Handler.rule = settings.rules) :
    ∃ reports before,
      ReportsOn request.toTurn.toContext { sessionDefault := settings.sessionDefault } handlers
        reports ∧
      run color timing inputs args = ⟨0, before ++ summaryText settings.color handlers.length
        (matchCount reports) (firstMatch reports), []⟩ := by
  have hreports := reportsOn_rules request.toTurn.toContext settings.options handlers fun _ => timing
  rw [← hreports.length_eq]
  rw [hrules] at hreports ⊢
  obtain ⟨before, hbefore⟩ := textOutput_summary settings.color request.toTurn.toContext
    (settings.rules.map (timedReport timing settings request.toTurn))
  refine ⟨_, before, hreports, ?_⟩
  rw [run_of_evaluate (prepare_of_loadRequest hparse hload), render, htext,
    if_neg Bool.false_ne_true, ← hbefore]
  rfl

end Printing

/-- A report says what the check of its rule says. Reports as text end with the summary of them, and
so does a run that prints them. That summary tells the winner of a dispatch whose callbacks all answer
conclusively, and its numbers are those of a dispatch whose callbacks all answer inconclusively. -/
theorem reports_agree_with_dispatch (ctx : Context) (opts : Options) :
    (∀ rule,
      (∀ b, Rule.check ctx opts rule = .ok b ↔
        (Rule.report ctx opts rule).matched = some b ∧ (Rule.report ctx opts rule).error = none) ∧
      ∀ text, (∃ e, Rule.check ctx opts rule = .error e ∧ e.message = text) ↔
        (Rule.report ctx opts rule).matched = none ∧
          (Rule.report ctx opts rule).error = some text) ∧
    (∀ color reports, summaryText color reports.length (matchCount reports) (firstMatch reports) <:+
      textOutput color ctx reports) ∧
    ∀ (γ : Type) (handlers : List (Handler γ)),
      (∀ (color : Bool) (timing : Timing) (inputs : Inputs) (args : List Text)
        (settings : Settings) (request : Request),
        parse color args = .ok (.evaluate settings) → loadRequest settings inputs = .ok request →
        settings.json = false → settings.rules = handlers.map Handler.rule →
        ctx = request.toTurn.toContext → opts = { sessionDefault := settings.sessionDefault } →
        ∃ reports before, ReportsOn ctx opts handlers reports ∧
          run color timing inputs args = ⟨0, before ++ summaryText settings.color handlers.length
            (matchCount reports) (firstMatch reports), []⟩) ∧
      ∀ (σ : Type) (invoke : γ → Effect σ (Option Json)) (s : σ) (reports : List TimedReport),
        ReportsOn ctx opts handlers reports →
        (Answering invoke handlers false →
          ∃ o t, Effect.result (dispatch ctx opts invoke handlers) s = (.ok o, t) ∧
            firstMatch reports = o.tally.winner) ∧
        (Answering invoke handlers true →
          ∃ o t, Effect.result (dispatch ctx opts invoke handlers) s = (.ok o, t) ∧
            matchCount reports = o.tally.matched ∧ errorCount reports = o.tally.errors) := by
  refine ⟨fun rule => ⟨fun b => Rule.check_eq_ok_iff ctx opts rule,
    fun text => Rule.check_eq_error_iff ctx opts rule⟩,
    fun color => textOutput_summary color ctx, fun γ handlers => ⟨?_, ?_⟩⟩
  · rintro color timing inputs args settings request hparse hload htext hrules rfl rfl
    exact run_summary hparse hload htext hrules.symm
  · intro σ invoke s reports hreports
    constructor
    · intro ha
      obtain ⟨o, t, hresult, hwinner⟩ := dispatch_conclusive ha s
      exact ⟨o, t, hresult, hreports.firstMatch_eq.trans hwinner.symm⟩
    · intro ha
      obtain ⟨o, t, hresult, hmatched, herrors⟩ := dispatch_inconclusive ha s
      exact ⟨o, t, hresult, hreports.matchCount_eq.trans hmatched.symm,
        hreports.errorCount_eq.trans herrors.symm⟩

section Survey

private def survey : List Text := List.map String.toList ["", "'", "(", "false", "true", "!false"]

private def surveyArgs : List Text :=
  "--intent".toList :: "Forecast".toList :: survey.flatMap fun rule => ["--rule".toList, rule]

private def surveySettings : Settings := { rules := survey, intent := some "Forecast".toList }

private def surveyInputs : Inputs := ⟨fun _ => .error .notFound, none⟩

private def surveyRequest : Request := .ofJson (intentBody "Forecast".toList [])

private def surveyed : List (Handler Unit) := survey.map fun rule => ⟨rule, ()⟩

/-- Counts its calls, and always gives the same answer. -/
private def repeating (answer : Json) (_ : Unit) : Effect Nat (Option Json) := do
  modify (· + 1)
  return some answer

private theorem repeating_answering (answer : Json) :
    Answering (repeating answer) surveyed (Json.inconclusive (some answer)) :=
  fun _ _ _ => ⟨some answer, rfl, rfl⟩

private theorem parseFrom_rules (settings : Settings) (rules : List Text) :
    parseFrom settings (rules.flatMap fun rule => ["--rule".toList, rule]) =
      finish { settings with rules := settings.rules ++ rules } := by
  induction rules generalizing settings with
  | nil => rw [List.append_nil]; rfl
  | cons rule rules ih =>
    refine (parseFrom_of_apply .rule rfl _).trans ((ih _).trans ?_)
    rw [List.append_assoc, List.singleton_append]

private theorem parse_surveyArgs : parse false surveyArgs = .ok (.evaluate surveySettings) :=
  (parseFrom_of_apply .intent rfl _).trans (parseFrom_rules _ survey)

/-- Of six rules two match, the fifth first, and two cannot be checked. -/
theorem reports_agree_with_dispatch_survey :
    (∃ before, run false ⟨"1µs".toList, 1⟩ surveyInputs surveyArgs = ⟨0, before ++
      "\n━━━ Summary ━━━\n  2 of 6 rules matched  │  first match: [4]\n\n".toList, []⟩) ∧
    (∃ o t, Effect.result (dispatch surveyRequest.toTurn.toContext {} (repeating (.bool true))
      surveyed) 0 = (.ok o, t) ∧ o.tally.winner = some 4) ∧
    ∃ o t, Effect.result (dispatch surveyRequest.toTurn.toContext {} (repeating .null)
      surveyed) 0 = (.ok o, t) ∧ o.tally.matched = 2 ∧ o.tally.errors = 2 := by
  obtain ⟨-, -, hboth⟩ := reports_agree_with_dispatch surveyRequest.toTurn.toContext {}
  obtain ⟨hprinted, hdispatched⟩ := hboth Unit surveyed
  obtain ⟨reports, before, hreports, hrun⟩ := hprinted false ⟨"1µs".toList, 1⟩ surveyInputs
    surveyArgs surveySettings surveyRequest parse_surveyArgs rfl rfl rfl rfl rfl
  have hfirst : firstMatch reports = some 4 := by
    rw [hreports.firstMatch_eq]
    decide +kernel
  have hcount : matchCount reports = 2 := by
    rw [hreports.matchCount_eq]
    decide +kernel
  have herrors : errorCount reports = 2 := by
    rw [hreports.errorCount_eq]
    decide +kernel
  have htext : summaryText false 6 2 (some 4) =
      "\n━━━ Summary ━━━\n  2 of 6 rules matched  │  first match: [4]\n\n".toList := by
    decide +kernel
  refine ⟨⟨before, ?_⟩, ?_, ?_⟩
  · rw [hrun, hcount, hfirst, ← htext]
    rfl
  · obtain ⟨o, t, hresult, hwinner⟩ := (hdispatched Nat (repeating (.bool true)) 0 reports
      hreports).1 (repeating_answering _)
    exact ⟨o, t, hresult, hwinner.symm.trans hfirst⟩
  · obtain ⟨o, t, hresult, hmatched, hbroken⟩ := (hdispatched Nat (repeating .null) 0 reports
      hreports).2 (repeating_answering _)
    exact ⟨o, t, hresult, hmatched.symm.trans hcount, hbroken.symm.trans herrors⟩

end Survey
end TurnRouter
