import GoScaffold.Text.Line

/-! The command that serves. -/

namespace GoScaffold.Bundled

def mainServer : String := Text.unlines [
  "// Code generated by ang \x7b\x7b ang_version \x7d\x7d. DO NOT EDIT.",
  "// input: \x7b\x7b input_hash \x7d\x7d compiler: \x7b\x7b compiler_hash \x7d\x7d",
  "",
  "\x7b% if service %\x7d",
  "// Command \x7b\x7b service | lower \x7d\x7d serves the \x7b\x7b service \x7d\x7d service.",
  "\x7b% else %\x7d",
  "// Command server serves every service in one process.",
  "\x7b% endif %\x7d",
  "package main",
  "",
  "import (",
  "\x7b% for path in imports.std %\x7d",
  "\t\"\x7b\x7b path \x7d\x7d\"",
  "\x7b% endfor %\x7d",
  "\x7b% if imports.std and imports.external %\x7d",
  "",
  "\x7b% endif %\x7d",
  "\x7b% for path in imports.external %\x7d",
  "\t\"\x7b\x7b path \x7d\x7d\"",
  "\x7b% endfor %\x7d",
  ")",
  "",
  "func main() \x7b",
  "\tlogger := slog.New(slog.NewJSONHandler(os.Stdout, nil))",
  "\tctx, stop := signal.NotifyContext(context.Background(), os.Interrupt, syscall.SIGTERM)",
  "\tdefer stop()",
  "",
  "\tfail := func(step string, err error) \x7b",
  "\t\tlogger.Error(\"startup failed\", \"step\", step, \"err\", err)",
  "\t\tos.Exit(1)",
  "\t\x7d",
  "",
  "\tcfg := platform.LoadConfig(\x7b\x7b (service or \"server\") | go_quote \x7d\x7d)",
  "\treadiness := platform.NewReadiness()",
  "\x7b% if requires.sql %\x7d",
  "",
  "\tsqlDB, err := platform.OpenSQL(ctx, cfg)",
  "\tif err != nil \x7b",
  "\t\tfail(\"sql\", err)",
  "\t\x7d",
  "\tdefer sqlDB.Close()",
  "\treadiness.Add(\"sql\", sqlDB)",
  "\x7b% endif %\x7d",
  "\x7b% if requires.mongo %\x7d",
  "",
  "\tmongoDB, closeMongo, err := platform.OpenMongo(ctx, cfg)",
  "\tif err != nil \x7b",
  "\t\tfail(\"mongo\", err)",
  "\t\x7d",
  "\tdefer closeMongo()",
  "\treadiness.Add(\"mongo\", mongoDB)",
  "\x7b% endif %\x7d",
  "\x7b% if requires.redis %\x7d",
  "",
  "\trdb, err := platform.OpenRedis(ctx, cfg)",
  "\tif err != nil \x7b",
  "\t\tfail(\"redis\", err)",
  "\t\x7d",
  "\tdefer rdb.Close()",
  "\treadiness.Add(\"redis\", rdb)",
  "\x7b% endif %\x7d",
  "\x7b% if requires.nats %\x7d",
  "",
  "\tnc, err := platform.OpenNATS(cfg)",
  "\tif err != nil \x7b",
  "\t\tfail(\"nats\", err)",
  "\t\x7d",
  "\tdefer nc.Close()",
  "\treadiness.Add(\"nats\", nc)",
  "\x7b% endif %\x7d",
  "\x7b% if requires.s3 %\x7d",
  "",
  "\tblobs, err := platform.OpenS3(ctx, cfg)",
  "\tif err != nil \x7b",
  "\t\tfail(\"s3\", err)",
  "\t\x7d",
  "\treadiness.Add(\"s3\", blobs)",
  "\x7b% endif %\x7d",
  "",
  "\thub := platform.NewHub(logger)",
  "\x7b% for svc, evs in ws_events | items %\x7d",
  "\x7b% for ev in evs %\x7d",
  "\x7b% set room = room_field_for_event(endpoints, svc, ev) %\x7d",
  "\x7b% if has_event_field(events, ev, room) %\x7d",
  "\thub.Route(\x7b\x7b ev | go_quote \x7d\x7d, \x7b\x7b room | go_quote \x7d\x7d)",
  "\x7b% else %\x7d",
  "\thub.Route(\x7b\x7b ev | go_quote \x7d\x7d, \"\")",
  "\x7b% endif %\x7d",
  "\x7b% endfor %\x7d",
  "\x7b% endfor %\x7d",
  "\x7b% if publisher %\x7d",
  "\x7b% if requires.nats %\x7d",
  "\tpublisher := platform.NewNATSPublisher(nc, hub)",
  "\x7b% else %\x7d",
  "\tpublisher := platform.NewLocalPublisher(hub)",
  "\x7b% endif %\x7d",
  "\x7b% endif %\x7d",
  "\x7b% if has_tx_services(services) %\x7d",
  "\ttx := platform.NewTx(\x7b% if requires.sql %\x7dsqlDB\x7b% else %\x7dnil\x7b% endif %\x7d)",
  "\x7b% endif %\x7d",
  "\x7b% if has_cache %\x7d",
  "\tcache := platform.NewCache(\x7b% if requires.redis %\x7drdb\x7b% else %\x7dnil\x7b% endif %\x7d)",
  "\x7b% endif %\x7d",
  "\x7b% if repos %\x7d",
  "",
  "\x7b% for r in repos %\x7d",
  "\x7b% if r.storage == \"mongo\" %\x7d",
  "\t\x7b\x7b r.var \x7d\x7d := mongo.New\x7b\x7b r.repo \x7d\x7d(mongoDB)",
  "\x7b% else %\x7d",
  "\t\x7b\x7b r.var \x7d\x7d := memory.New\x7b\x7b r.repo \x7d\x7d()",
  "\x7b% endif %\x7d",
  "\x7b% endfor %\x7d",
  "\x7b% endif %\x7d",
  "\x7b% if wiring %\x7d",
  "",
  "\x7b% for w in wiring %\x7d",
  "\x7b% if w.cached %\x7d",
  "\t\x7b\x7b w.var \x7d\x7d := service.NewCached\x7b\x7b w.name \x7d\x7d(service.New\x7b\x7b w.name \x7d\x7dImpl(\x7b\x7b w.args | join(\", \") \x7d\x7d), cache)",
  "\x7b% else %\x7d",
  "\t\x7b\x7b w.var \x7d\x7d := service.New\x7b\x7b w.name \x7d\x7dImpl(\x7b\x7b w.args | join(\", \") \x7d\x7d)",
  "\x7b% endif %\x7d",
  "\x7b% endfor %\x7d",
  "\x7b% endif %\x7d",
  "",
  "\trouter := http.NewRouter(logger, readiness, hub)",
  "\x7b% for w in wiring %\x7d",
  "\thttp.Register\x7b\x7b w.name \x7d\x7d(router, \x7b\x7b w.var \x7d\x7d)",
  "\x7b% endfor %\x7d",
  "\x7b% if auth_owner %\x7d",
  "\thttp.RegisterAuth(router, platform.NewJWTIssuer(cfg, \x7b\x7b auth.issuer | go_quote \x7d\x7d))",
  "\x7b% endif %\x7d",
  "\x7b% if ws_services %\x7d",
  "\thttp.ServeWS(router, hub)",
  "\x7b% endif %\x7d",
  "\x7b% for sch in schedules %\x7d",
  "\x7b% set var = (sch.service | lower_first) ~ \"Svc\" %\x7d",
  "\x7b% for s in services if s.name == sch.service %\x7d",
  "\x7b% for m in s.methods if m.name == sch.action %\x7d",
  "\tplatform.Schedule(ctx, logger, \x7b\x7b sch.name | go_quote \x7d\x7d, \x7b\x7b sch.every | go_quote \x7d\x7d, \x7b\x7b sch.at | go_quote \x7d\x7d, func(ctx context.Context) error \x7b",
  "\x7b% if m.output %\x7d",
  "\t\t_, err := \x7b\x7b var \x7d\x7d.\x7b\x7b m.name \x7d\x7d(ctx\x7b% if m.input %\x7d, \x7b\x7b m.impl_signature.input_type \x7d\x7d\x7b\x7d\x7b% endif %\x7d)",
  "\t\treturn err",
  "\x7b% else %\x7d",
  "\t\treturn \x7b\x7b var \x7d\x7d.\x7b\x7b m.name \x7d\x7d(ctx\x7b% if m.input %\x7d, \x7b\x7b m.impl_signature.input_type \x7d\x7d\x7b\x7d\x7b% endif %\x7d)",
  "\x7b% endif %\x7d",
  "\t\x7d)",
  "\x7b% endfor %\x7d",
  "\x7b% endfor %\x7d",
  "\x7b% if not sch.action and sch.publish and publisher %\x7d",
  "\tplatform.Schedule(ctx, logger, \x7b\x7b sch.name | go_quote \x7d\x7d, \x7b\x7b sch.every | go_quote \x7d\x7d, \x7b\x7b sch.at | go_quote \x7d\x7d, func(ctx context.Context) error \x7b",
  "\t\treturn publisher.Publish(ctx, \x7b\x7b sch.publish | go_quote \x7d\x7d, nil)",
  "\t\x7d)",
  "\x7b% endif %\x7d",
  "\x7b% endfor %\x7d",
  "",
  "\tsrv := platform.NewServer(cfg, router)",
  "\tlogger.Info(\"listening\", \"service\", \x7b\x7b (service or \"server\") | go_quote \x7d\x7d, \"addr\", srv.Addr())",
  "\tif err := srv.Run(ctx); err != nil \x7b",
  "\t\tfail(\"serve\", err)",
  "\t\x7d",
  "\x7d"]

end GoScaffold.Bundled
