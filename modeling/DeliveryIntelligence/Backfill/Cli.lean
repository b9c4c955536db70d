import DeliveryIntelligence.Backfill.Github
import DeliveryIntelligence.Backfill.RestBackfill

set_option autoImplicit false

/-!
# The command line of the backfills

`backfill/cli.py`: one window is backfilled by the GraphQL client and then by the REST client,
over one storage. The task of `airflow/dags/github_backfill.py` is a call of `main`; with
`max_active_runs=1` and one task a run, its attempts and those of other runs follow one another.
Left out are the parsing of the arguments and what the clients and the pool are configured with.
-/

namespace Backfill

open Datetime Program

/-- A request of one of the two clients. -/
inductive CliRequest
  | graphQL (request : GraphQLRequest)
  | rest (request : RestRequest)

/-- A job that uses one of several clients. -/
def Job.lift {Request Request' α : Type} (f : Request → Request') :
    Job Request α → Job Request' α
  | .pure a => .pure a
  | .raise e => .raise e
  | .call (.loadCheckpoint key) k =>
      .call (.loadCheckpoint key) fun reply => Job.lift f (k reply)
  | .call (.persistPage key records nextCursor completed) k =>
      .call (.persistPage key records nextCursor completed) fun reply => Job.lift f (k reply)
  | .call (.request request) k => .call (.request (f request)) fun reply => Job.lift f (k reply)

/-- What `main` reads from `BackfillSettings`. -/
structure BackfillSettings where
  githubRepository : String
  githubRepositoryId : Int
  githubInstallationId : Int
  githubPageSize : Int

/-- What `main` prints, with sorted keys. -/
def completedEvent (window : Window) (summary : BackfillSummary) : Json :=
  .object
    [ ("duplicates_absorbed", .number summary.duplicatesAbsorbed 0)
    , ("event", .string "github_backfill_completed")
    , ("pages_persisted", .number summary.pagesPersisted 0)
    , ("records_inserted", .number summary.recordsInserted 0)
    , ("window_end", .string window.windowEnd.isoformat)
    , ("window_start", .string window.windowStart.isoformat) ]

/-- `main`, from its arguments to what it prints before it returns 0. -/
def main (readers : Readers) (settings : BackfillSettings) (window : Window) (fuel : Nat) :
    Job CliRequest Json := do
  let graphQL ← Prog.ofExcept (GitHubPullRequestBackfill.init settings.githubRepository
    settings.githubRepositoryId settings.githubInstallationId settings.githubPageSize)
  let summary ← Job.lift .graphQL (runPullRequests readers graphQL window fuel)
  let rest ← Prog.ofExcept (GitHubRestBackfill.init settings.githubRepository
    settings.githubRepositoryId settings.githubInstallationId settings.githubPageSize)
  let more ← Job.lift .rest (runRest readers rest window fuel)
  return completedEvent window (summary.plus more)

end Backfill
