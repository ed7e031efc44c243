import Blueprints.Cli.Table.Browse
import Blueprints.Cli.Table.Change
import Blueprints.Cli.Table.Execute
import Blueprints.Cli.Table.Market
import Blueprints.Cli.Table.Files

namespace Blueprints.Cli
open Cli.Param

def rootGroup : Node :=
  .group "main" "Calm CLI\n\n\x08\nCommonly used commands:\n  calm get apps   -> Get list of apps\n  calm get bps   -> Get list of blueprints\n  calm launch bp --app_name Fancy-App-1 MyFancyBlueprint   -> Launch a new app from an existing blueprint\n  calm create bp -f sample_bp.py --name Sample-App-3   -> Upload a new blueprint from a python DSL file\n  calm describe app Fancy-App-1   -> Describe an existing app\n  calm app Fancy-App-1 -w my_action   -> Run an action on an app\n  calm get runbooks  -> Get list of runbooks\n  calm describe runbook MyFancyRunbook   -> Describe an existing runbook\n  calm create runbook -f sample_rb.py --name Sample-RB  -> Upload a new runbook from a python DSL file\n  calm run runbook MyFancyRunbook -> Runs the existing runbook MyFancyRunbook\n  calm run runbook -f sample_rb.py -> Runs the runbook from a python DSL file\n  calm get execution_history  -> Get list of runbook executions\n  calm get endpoints -> Get list of endpoints\n  calm create endpoint -f sample_ep.py --name Sample-Endpoint -> Upload a new endpoint from a python DSL file"
    [{ option ["--verbose", "-v"] "verbose" "Verboses the output" with
      count := true,
      eager := true,
      exposed := false,
      default := .logLevel },
    { option ["--show_trace", "-st"] "show_trace" "Show the traceback for the exceptions" with
      flag := true,
      eager := true,
      exposed := false,
      default := .value (.bool false) },
    { option ["--config", "-c"] "config_file" "Path to config file, defaults to ~/.calm/config.ini" with
      type := .path true true false },
    .switch ["--sync", "-s"] "sync" "Update cache before running command", versionParam]
    "" true
    [abortGroup, approveGroup, clearGroup, compileGroup, completionGroup, createGroup, decompileGroup, deleteGroup, describeGroup, downloadGroup, formatGroup, getGroup, importGroup, initGroup, launchGroup, pauseGroup, promptCommand, publishGroup, rejectGroup, restartGroup, resumeGroup, runGroup, setGroup, showGroup, startGroup, stopGroup, unpublishGroup, updateGroup, validateGroup, watchGroup]

end Blueprints.Cli
