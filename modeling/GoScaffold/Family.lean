/-! Families of artifacts. -/

namespace GoScaffold

inductive Family where
  | domain | dto | events | servicePorts | repositoryPorts | serviceImpls | cachedServices
  | mongoRepos | mongoHelpers | stubRepos | repoMocks | contractTests | serviceMain
deriving DecidableEq

namespace Family

def all : List Family :=
  [domain, dto, events, servicePorts, repositoryPorts, serviceImpls, cachedServices, mongoRepos,
    mongoHelpers, stubRepos, repoMocks, contractTests, serviceMain]

def name : Family → String
  | domain => "domain"
  | dto => "dto"
  | events => "events"
  | servicePorts => "service_ports"
  | repositoryPorts => "repository_ports"
  | serviceImpls => "service_impls"
  | cachedServices => "cached_services"
  | mongoRepos => "mongo_repos"
  | mongoHelpers => "mongo_helpers"
  | stubRepos => "stub_repos"
  | repoMocks => "repo_mocks"
  | contractTests => "contract_tests"
  | serviceMain => "service_main"

def template : Family → String
  | domain => "domain"
  | dto => "dto"
  | events => "events"
  | servicePorts => "service"
  | repositoryPorts => "repo_port"
  | serviceImpls => "service_impl"
  | cachedServices => "service_cached"
  | mongoRepos => "mongo_repo"
  | mongoHelpers => "mongo_helpers"
  | stubRepos => "stub_repo"
  | repoMocks => "mock_repo"
  | contractTests => "contract_tests"
  | serviceMain => "main_server"

def ofName? (name : String) : Option Family := all.find? fun f => f.name == name

end Family

end GoScaffold
