import FleetConsole.Fleet.Application

/-!
# The index of status reports

Status reports are found by the key of their object. Of several reports with one key the last
counts; the key of each report that replaces an earlier one is kept, so that every report is counted
once, either as an entry or as a duplicate.
-/

namespace FleetConsole

/-- Status reports by key. -/
structure ReportIndex where
  /-- The reports that count, each key once. -/
  entries : List (String × StatusReport) := []
  /-- The keys of the reports that replaced another, in the order in which they came. -/
  duplicates : List String := []
deriving DecidableEq

namespace ReportIndex

/-- Entries with the report of one key replaced or added at the end. -/
def setEntry (key : String) (report : StatusReport) :
    List (String × StatusReport) → List (String × StatusReport)
  | [] => [(key, report)]
  | (k, r) :: rest => if key = k then (key, report) :: rest else (k, r) :: setEntry key report rest

/-- The index with one more report. -/
def insert (index : ReportIndex) (report : StatusReport) : ReportIndex where
  entries := setEntry report.key report index.entries
  duplicates :=
    if (index.entries.lookup report.key).isSome then index.duplicates ++ [report.key]
    else index.duplicates

/-- The index of a list of reports. -/
def ofReports (reports : List StatusReport) : ReportIndex := reports.foldl insert {}

/-- The report with a key. -/
def get? (index : ReportIndex) (key : String) : Option StatusReport := index.entries.lookup key

/-- The number of keys. -/
def size (index : ReportIndex) : Nat := index.entries.length

end ReportIndex

end FleetConsole
