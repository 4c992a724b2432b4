import Readiness.Finding

/-!
# Uses of interfaces

How often each scored rule matches, and in which files. A scan of one text gives a partial result,
and partial results are merged by adding counts and uniting sets of files, so that the order of
scans does not matter.

* `Usage.scan` searches one text for all rules.
* `Usage.merge` combines two results.
* `Usage.findings` lists the rules that match, the most serious first.
-/

namespace Readiness

/-- The matches of one rule: their number, and the files that have any in increasing order. -/
structure Hits where
  count : Nat
  files : List String

namespace Hits

def none : Hits := ⟨0, []⟩

/-- The files with one more, in increasing order. -/
def insertFile (file : String) : List String → List String
  | [] => [file]
  | f :: fs =>
    if file < f then file :: f :: fs
    else if f < file then f :: insertFile file fs
    else f :: fs

def merge (a b : Hits) : Hits :=
  ⟨a.count + b.count, b.files.foldl (fun fs f => insertFile f fs) a.files⟩

def inFile (file : String) (count : Nat) : Hits :=
  if count = 0 then none else ⟨count, [file]⟩

end Hits

/-- The matches of the scored rules of a table, by their places in it. A rule beyond the end of the
list has none. -/
structure Usage where
  hits : List Hits

namespace Usage

def zero : Usage := ⟨[]⟩

/-- The hits of both lists at each place. -/
def mergeHits : List Hits → List Hits → List Hits
  | [], bs => bs
  | as, [] => as
  | a :: as, b :: bs => a.merge b :: mergeHits as bs

def merge (u v : Usage) : Usage := ⟨mergeHits u.hits v.hits⟩

def scan (table : RuleTable) (file : String) (text : List Char) : Usage :=
  ⟨table.scored.map fun r => Hits.inFile file (r.countIn text)⟩

/-- The greatest number of files that a finding lists. -/
def maxFiles : Nat := 10

/-- The finding for a rule with its matches, if there are any. -/
def finding? (r : ScoredRule) (h : Hits) : Option ApiFinding :=
  if h.count = 0 then none
  else some ⟨r.rule.pattern, r.rule.tier, h.count, h.files.take maxFiles, r.rule.guidance⟩

/-- Whether a finding may stand before another: blocking ones first, then by descending count. -/
def before (a b : ApiFinding) : Bool :=
  if a.tier = .blocking then b.tier ≠ .blocking || b.count ≤ a.count
  else b.tier ≠ .blocking && b.count ≤ a.count

/-- The rules that match, the most serious and most frequent first; equal ones stay in the order of
the table. -/
def findings (u : Usage) (table : RuleTable) : List ApiFinding :=
  ((table.scored.zip u.hits).filterMap fun p => finding? p.1 p.2).mergeSort before

end Usage

end Readiness
