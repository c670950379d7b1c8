import GoScaffold.Bundled.ContractTests
import GoScaffold.Bundled.Domain
import GoScaffold.Bundled.Dto
import GoScaffold.Bundled.Events
import GoScaffold.Bundled.MainServer
import GoScaffold.Bundled.MockRepo
import GoScaffold.Bundled.MongoHelpers
import GoScaffold.Bundled.MongoRepo
import GoScaffold.Bundled.RepoPort
import GoScaffold.Bundled.Service
import GoScaffold.Bundled.ServiceCached
import GoScaffold.Bundled.ServiceImpl
import GoScaffold.Bundled.StubRepo

/-! The templates that are used unless a project brings its own. -/

namespace GoScaffold.Bundled

def templates : List (String × String) :=
  [("domain", domain),
    ("dto", dto),
    ("events", events),
    ("service", service),
    ("repo_port", repoPort),
    ("service_impl", serviceImpl),
    ("service_cached", serviceCached),
    ("mongo_repo", mongoRepo),
    ("mongo_helpers", mongoHelpers),
    ("stub_repo", stubRepo),
    ("mock_repo", mockRepo),
    ("contract_tests", contractTests),
    ("main_server", mainServer)]

def template? (name : String) : Option String := templates.lookup name

end GoScaffold.Bundled
