/-!
# The player of a page

The script that plays a story inside its page, and the look of the page apart from
its colours. The script follows the rules of play on its own: it judges
requirements, applies consequences to copies of the store, keeps the kind of each
key and ends the story at the terminal target.
-/

namespace Gamebook.Page

/-- The lines of the script. -/
def playerLines : List String :=
  ["",
    "(function () \x7b",
    "  \"use strict\";",
    "  var data = JSON.parse(document.getElementById(\"story-data\").textContent);",
    "  var TERMINAL = data.terminal;",
    "  var scenes = \x7b\x7d;",
    "  data.scenes.forEach(function (scene) \x7b",
    "    if (!has(scenes, scene.id)) \x7b scenes[scene.id] = scene; \x7d",
    "  \x7d);",
    "  var compare = \x7b",
    "    \">\": function (a, b) \x7b return a > b; \x7d,",
    "    \"<\": function (a, b) \x7b return a < b; \x7d,",
    "    \"=\": function (a, b) \x7b return a === b; \x7d,",
    "    \">=\": function (a, b) \x7b return a >= b; \x7d,",
    "    \"<=\": function (a, b) \x7b return a <= b; \x7d",
    "  \x7d;",
    "  var state = null;",
    "  var notice = \"\";",
    "",
    "  function has(obj, key) \x7b return Object.prototype.hasOwnProperty.call(obj, key); \x7d",
    "  function isNumber(v) \x7b return typeof v === \"number\" && isFinite(v); \x7d",
    "  function isCount(v) \x7b return isNumber(v) && Math.floor(v) === v && v >= 0; \x7d",
    "  function copy(obj) \x7b",
    "    var out = \x7b\x7d;",
    "    Object.keys(obj).forEach(function (key) \x7b out[key] = obj[key]; \x7d);",
    "    return out;",
    "  \x7d",
    "",
    "  function readValue(kind, key) \x7b",
    "    if (has(state.variables, key) && state.kinds[key] === kind) \x7b return state.variables[key]; \x7d",
    "    return kind === \"flag\" ? false : 0;",
    "  \x7d",
    "",
    "  function kindConflict(kinds, key, kind) \x7b",
    "    if (has(kinds, key) && kinds[key] !== kind) \x7b",
    "      return \"'\" + key + \"' holds a \" + kinds[key] + \", not a \" + kind;",
    "    \x7d",
    "    return null;",
    "  \x7d",
    "",
    "  function compareCount(req, current) \x7b",
    "    if (!isNumber(req.value)) \x7b return req.kind + \" '\" + req.key + \"' must be compared with a number\"; \x7d",
    "    if (!has(compare, req.operator)) \x7b return \"unknown operator '\" + req.operator + \"'\"; \x7d",
    "    if (compare[req.operator](current, req.value)) \x7b return null; \x7d",
    "    return \"requires \" + req.kind + \" '\" + req.key + \"' \" + req.operator + \" \" + req.value +",
    "      \" (have \" + current + \")\";",
    "  \x7d",
    "",
    "  var evaluators = \x7b",
    "    item: function (req) \x7b return compareCount(req, readValue(\"item\", req.key)); \x7d,",
    "    attribute: function (req) \x7b return compareCount(req, readValue(\"attribute\", req.key)); \x7d,",
    "    flag: function (req) \x7b",
    "      if (req.operator !== \"=\") \x7b return \"flag '\" + req.key + \"' can only be compared with '='\"; \x7d",
    "      if (typeof req.value !== \"boolean\") \x7b return \"flag '\" + req.key + \"' must be compared with true or false\"; \x7d",
    "      if (readValue(\"flag\", req.key) === req.value) \x7b return null; \x7d",
    "      return \"requires flag '\" + req.key + \"' to be \" + (req.value ? \"set\" : \"unset\");",
    "    \x7d",
    "  \x7d;",
    "",
    "  function blockedReason(choice) \x7b",
    "    var reqs = choice.requirements || [];",
    "    for (var i = 0; i < reqs.length; i++) \x7b",
    "      var req = reqs[i];",
    "      if (!has(evaluators, req.kind)) \x7b return \"unknown requirement kind '\" + req.kind + \"'\"; \x7d",
    "      var conflict = kindConflict(state.kinds, req.key, req.kind);",
    "      var reason = conflict || evaluators[req.kind](req);",
    "      if (reason) \x7b return reason; \x7d",
    "    \x7d",
    "    return null;",
    "  \x7d",
    "",
    "  function applyCount(c, current) \x7b",
    "    if (c.operation === \"set\") \x7b return c.value; \x7d",
    "    if (c.operation === \"add\") \x7b return current + c.value; \x7d",
    "    return Math.max(0, current - c.value);",
    "  \x7d",
    "",
    "  var appliers = \x7b",
    "    item: function (c, vars) \x7b",
    "      if (!isCount(c.value)) \x7b return \"item '\" + c.key + \"' needs a non-negative whole count\"; \x7d",
    "      vars[c.key] = applyCount(c, has(vars, c.key) ? vars[c.key] : 0);",
    "      return null;",
    "    \x7d,",
    "    attribute: function (c, vars) \x7b",
    "      if (!isNumber(c.value)) \x7b return \"attribute '\" + c.key + \"' needs a numeric value\"; \x7d",
    "      vars[c.key] = applyCount(c, has(vars, c.key) ? vars[c.key] : 0);",
    "      return null;",
    "    \x7d,",
    "    flag: function (c, vars) \x7b",
    "      if (c.operation === \"add\") \x7b return \"flag '\" + c.key + \"' cannot be added to\"; \x7d",
    "      if (c.operation === \"remove\") \x7b vars[c.key] = false; return null; \x7d",
    "      if (typeof c.value !== \"boolean\") \x7b return \"flag '\" + c.key + \"' can only be set to true or false\"; \x7d",
    "      vars[c.key] = c.value;",
    "      return null;",
    "    \x7d",
    "  \x7d;",
    "",
    "  function select(choice) \x7b",
    "    if (state.status !== \"active\") \x7b return; \x7d",
    "    var reason = blockedReason(choice);",
    "    var terminal = choice.nextSceneId === TERMINAL;",
    "    if (!reason && !terminal && !has(scenes, choice.nextSceneId)) \x7b",
    "      reason = \"target scene '\" + choice.nextSceneId + \"' does not exist\";",
    "    \x7d",
    "    var vars = copy(state.variables);",
    "    var kinds = copy(state.kinds);",
    "    var cons = choice.consequences || [];",
    "    for (var i = 0; !reason && i < cons.length; i++) \x7b",
    "      var c = cons[i];",
    "      if (!has(appliers, c.kind)) \x7b reason = \"unknown consequence kind '\" + c.kind + \"'\"; break; \x7d",
    "      if ([\"add\", \"remove\", \"set\"].indexOf(c.operation) < 0) \x7b",
    "        reason = \"unknown operation '\" + c.operation + \"'\";",
    "        break;",
    "      \x7d",
    "      reason = kindConflict(kinds, c.key, c.kind) || appliers[c.kind](c, vars);",
    "      if (!reason) \x7b kinds[c.key] = c.kind; \x7d",
    "    \x7d",
    "    if (reason) \x7b",
    "      notice = reason;",
    "      render();",
    "      return;",
    "    \x7d",
    "    state = \x7b",
    "      scene: terminal ? state.scene : choice.nextSceneId,",
    "      variables: vars,",
    "      kinds: kinds,",
    "      status: terminal ? \"ended\" : \"active\",",
    "      history: state.history.concat([choice.id])",
    "    \x7d;",
    "    notice = \"\";",
    "    render();",
    "  \x7d",
    "",
    "  function element(tag, className, text) \x7b",
    "    var node = document.createElement(tag);",
    "    if (className) \x7b node.className = className; \x7d",
    "    if (text !== undefined && text !== null) \x7b node.textContent = text; \x7d",
    "    return node;",
    "  \x7d",
    "",
    "  function statusLine() \x7b",
    "    var parts = [];",
    "    Object.keys(state.variables).sort().forEach(function (key) \x7b",
    "      var kind = state.kinds[key];",
    "      var value = state.variables[key];",
    "      if (kind === \"item\" && value > 0) \x7b parts.push(key + \" x\" + value); \x7d",
    "      if (kind === \"attribute\") \x7b parts.push(key + \": \" + value); \x7d",
    "    \x7d);",
    "    return parts.length ? parts.join(\" | \") : \"Your pack is empty.\";",
    "  \x7d",
    "",
    "  function render() \x7b",
    "    var root = document.getElementById(\"game\");",
    "    root.innerHTML = \"\";",
    "    var scene = scenes[state.scene];",
    "    var panel = element(\"div\", \"scene\");",
    "    if (!scene) \x7b",
    "      panel.appendChild(element(\"p\", null, \"This story has no scenes to play.\"));",
    "      root.appendChild(panel);",
    "      return;",
    "    \x7d",
    "    if (typeof scene.image === \"string\" && scene.image.indexOf(\"data:\") === 0) \x7b",
    "      var img = element(\"img\");",
    "      img.src = scene.image;",
    "      img.alt = scene.title;",
    "      panel.appendChild(img);",
    "    \x7d",
    "    panel.appendChild(element(\"h2\", null, scene.title));",
    "    panel.appendChild(element(\"p\", null, scene.description));",
    "    if (state.status === \"ended\") \x7b",
    "      panel.appendChild(element(\"h3\", null, \"The End\"));",
    "    \x7d else \x7b",
    "      var list = element(\"ol\", \"choices\");",
    "      scene.choices.forEach(function (choice, index) \x7b",
    "        var item = element(\"li\");",
    "        var button = element(\"button\", \"choice\", (index + 1) + \". \" + choice.text);",
    "        button.type = \"button\";",
    "        var reason = blockedReason(choice);",
    "        if (reason) \x7b",
    "          button.disabled = true;",
    "          button.appendChild(element(\"span\", \"reason\", reason));",
    "        \x7d",
    "        button.addEventListener(\"click\", function () \x7b select(choice); \x7d);",
    "        item.appendChild(button);",
    "        list.appendChild(item);",
    "      \x7d);",
    "      panel.appendChild(list);",
    "    \x7d",
    "    panel.appendChild(element(\"p\", \"notice\", notice));",
    "    panel.appendChild(element(\"p\", \"status\", statusLine()));",
    "    root.appendChild(panel);",
    "  \x7d",
    "",
    "  function restart() \x7b",
    "    state = \x7b scene: data.startSceneId, variables: \x7b\x7d, kinds: \x7b\x7d, status: \"active\", history: [] \x7d;",
    "    notice = \"\";",
    "    render();",
    "  \x7d",
    "",
    "  document.getElementById(\"restart\").addEventListener(\"click\", restart);",
    "  document.addEventListener(\"keydown\", function (event) \x7b",
    "    var number = parseInt(event.key, 10);",
    "    var scene = scenes[state.scene];",
    "    if (!scene || isNaN(number) || number < 1 || number > scene.choices.length) \x7b return; \x7d",
    "    select(scene.choices[number - 1]);",
    "  \x7d);",
    "  restart();",
    "\x7d)();",
    ""]

/-- The script, with a line break at both ends. -/
def playerScript : String := String.intercalate "\n" playerLines

/-- The lines of the style after the one with the colours. -/
def styleLines : List String :=
  ["* \x7b box-sizing: border-box; \x7d",
    "body \x7b margin: 0; background: var(--bg); color: var(--text);",
    "  font-family: Georgia, \"Times New Roman\", serif; line-height: 1.6; \x7d",
    "main \x7b max-width: 760px; margin: 0 auto; padding: 24px; \x7d",
    "header h1 \x7b margin-bottom: 4px; \x7d",
    "header p \x7b opacity: 0.8; \x7d",
    ".scene \x7b background: var(--panel); border-radius: 12px; padding: 20px 24px; \x7d",
    ".scene img \x7b width: 100%; border-radius: 8px; \x7d",
    ".choices \x7b list-style: none; padding: 0; \x7d",
    ".choice \x7b display: block; width: 100%; margin: 10px 0; padding: 12px 14px;",
    "  text-align: left; font: inherit; color: var(--text); background: transparent;",
    "  border: 1px solid var(--accent); border-radius: 8px; cursor: pointer; \x7d",
    ".choice:hover:enabled \x7b background: var(--accent); color: var(--bg); \x7d",
    ".choice:disabled \x7b opacity: 0.45; cursor: not-allowed; \x7d",
    ".choice .reason \x7b display: block; font-size: 0.8em; opacity: 0.8; \x7d",
    ".notice \x7b color: #f87171; min-height: 1.5em; \x7d",
    ".status \x7b font-size: 0.85em; opacity: 0.75; margin-top: 16px; \x7d",
    ".controls \x7b margin-top: 16px; \x7d",
    ".controls button \x7b font: inherit; padding: 8px 14px; border-radius: 8px;",
    "  border: 1px solid var(--accent); background: transparent; color: var(--text); cursor: pointer; \x7d",
    ""]

/-- The style of a page with a background, a panel, a text and an accent colour. -/
def style (background panel text accent : String) : String :=
  "\n:root \x7b --bg: " ++ background ++ "; --panel: " ++ panel ++ "; --text: " ++ text ++
    "; --accent: " ++ accent ++ "; \x7d\n" ++ String.intercalate "\n" styleLines

end Gamebook.Page
