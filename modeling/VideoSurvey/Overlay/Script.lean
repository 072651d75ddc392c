import VideoSurvey.Template.Basic

/-!
# The script of the overlay

The script that runs in the document. It reads the manifest from the overlay's root element and
walks the visitor through the steps: it shows one card at a time, arms the submit control of a
star question once a star is chosen, hands each answer to the host's tracker, and after the thank
you card hands the video back.
-/

set_option autoImplicit false

namespace VideoSurvey.Overlay

/-- The lines of the script. -/
def scriptLines : List String :=
  ["(function () \x7b",
   "  \"use strict\";",
   "",
   "  var root = document.getElementById(\"survey-feedback-container\");",
   "  if (!root) \x7b",
   "    return;",
   "  \x7d",
   "  var manifest = JSON.parse(root.getAttribute(\"data-survey-runtime\") || \"\x7b\x7d\");",
   "",
   "  var THANK_YOU = \"thankYou\";",
   "  var DISMISSING = \"dismissing\";",
   "  var CLOSED = \"closed\";",
   "",
   "  function starLabel(count) \x7b",
   "    return count === 1 ? \"1 Star\" : count + \" Stars\";",
   "  \x7d",
   "",
   "  function safely(fn) \x7b",
   "    try \x7b",
   "      return fn();",
   "    \x7d catch (err) \x7b",
   "      return undefined;",
   "    \x7d",
   "  \x7d",
   "",
   "  function capabilities(self) \x7b",
   "    var controller = (self && self.controller) || \x7b\x7d;",
   "    var player = controller.player || \x7b\x7d;",
   "    var tracker = controller.tracker || \x7b\x7d;",
   "    return \x7b",
   "      track: function (channel, event) \x7b",
   "        if (typeof tracker.track !== \"function\") \x7b",
   "          return;",
   "        \x7d",
   "        safely(function () \x7b",
   "          tracker.track(\x7b track_data: \x7b type: channel, data: JSON.stringify(event) \x7d \x7d);",
   "        \x7d);",
   "      \x7d,",
   "      currentTime: function () \x7b",
   "        if (typeof player.getCurrentTime !== \"function\") \x7b",
   "          return 0;",
   "        \x7d",
   "        var offset = parseInt(safely(function () \x7b return player.getCurrentTime(); \x7d), 10);",
   "        return isNaN(offset) ? 0 : offset;",
   "      \x7d,",
   "      seekTo: function (offset) \x7b",
   "        if (typeof player.seekTo === \"function\") \x7b",
   "          safely(function () \x7b player.seekTo(offset); \x7d);",
   "        \x7d",
   "      \x7d,",
   "      hide: function () \x7b",
   "        if (self && typeof self.hide === \"function\") \x7b",
   "          safely(function () \x7b self.hide(); \x7d);",
   "        \x7d",
   "      \x7d",
   "    \x7d;",
   "  \x7d",
   "",
   "  window[manifest.callback] = \x7b",
   "    onRender: function (self) \x7b",
   "      var scope = (self && self.container) || document;",
   "      var host = capabilities(self);",
   "      var state = \x7b current: null, submitted: \x7b\x7d, stars: \x7b\x7d \x7d;",
   "",
   "      function find(selector) \x7b",
   "        return scope.querySelector(selector);",
   "      \x7d",
   "",
   "      function findAll(selector) \x7b",
   "        return Array.prototype.slice.call(scope.querySelectorAll(selector));",
   "      \x7d",
   "",
   "      function show(stepId) \x7b",
   "        findAll(\".survey-feedback-step.active\").forEach(function (el) \x7b",
   "          el.classList.remove(\"active\");",
   "        \x7d);",
   "        var el = find(\"#\" + stepId);",
   "        if (el) \x7b",
   "          el.classList.add(\"active\");",
   "        \x7d",
   "      \x7d",
   "",
   "      function enterThankYou() \x7b",
   "        var thankYou = manifest.thankYou;",
   "        state.current = THANK_YOU;",
   "        show(thankYou.stepId);",
   "        setTimeout(function () \x7b",
   "          var overlay = find(\".survey-feedback-container\");",
   "          if (overlay && overlay.parentNode) \x7b",
   "            overlay.parentNode.removeChild(overlay);",
   "          \x7d",
   "          state.current = DISMISSING;",
   "          setTimeout(function () \x7b",
   "            state.current = CLOSED;",
   "            host.seekTo(thankYou.continueTime);",
   "            host.hide();",
   "          \x7d, thankYou.transitionDelayMs);",
   "        \x7d, thankYou.durationMs);",
   "      \x7d",
   "",
   "      function enter(transition) \x7b",
   "        if (transition.kind === \"step\") \x7b",
   "          state.current = transition.target;",
   "          show(transition.target);",
   "        \x7d else \x7b",
   "          enterThankYou();",
   "        \x7d",
   "      \x7d",
   "",
   "      function selectStar(step, count) \x7b",
   "        if (state.current !== step.stepId || state.submitted[step.stepId]) \x7b",
   "          return;",
   "        \x7d",
   "        if (count < 1 || count > step.maxStars) \x7b",
   "          return;",
   "        \x7d",
   "        state.stars[step.stepId] = count;",
   "        findAll(\"#\" + step.stepId + \" .feedback-star-icon\").forEach(function (el, index) \x7b",
   "          var icon = el.querySelector(\"i\");",
   "          if (icon) \x7b",
   "            icon.classList.toggle(\"fas\", index < count);",
   "            icon.classList.toggle(\"far\", index >= count);",
   "          \x7d",
   "        \x7d);",
   "        var button = find(\"#\" + step.submitId);",
   "        if (button) \x7b",
   "          button.classList.add(\"feedback-submit-clickable\");",
   "          button.setAttribute(\"data-track-feedback\", String(count));",
   "        \x7d",
   "      \x7d",
   "",
   "      function capture(step) \x7b",
   "        if (step.capture === \"starCount\") \x7b",
   "          var count = state.stars[step.stepId] || 0;",
   "          return count > 0 ? \x7b key: \"feedback\", value: starLabel(count) \x7d : null;",
   "        \x7d",
   "        var input = find(\"#\" + step.stepId + \" textarea\");",
   "        return \x7b key: \"text\", value: input ? input.value : \"\" \x7d;",
   "      \x7d",
   "",
   "      function submit(step) \x7b",
   "        if (state.current !== step.stepId || state.submitted[step.stepId]) \x7b",
   "          return;",
   "        \x7d",
   "        if (step.guard === \"starSelected\" && !(state.stars[step.stepId] > 0)) \x7b",
   "          return;",
   "        \x7d",
   "        var captured = capture(step);",
   "        if (!captured) \x7b",
   "          return;",
   "        \x7d",
   "        state.submitted[step.stepId] = true;",
   "        var button = find(\"#\" + step.submitId);",
   "        if (button) \x7b",
   "          button.classList.add(\"disabled\");",
   "        \x7d",
   "        var event = \x7b",
   "          id: step.analytics.id,",
   "          name: step.analytics.name,",
   "          group: step.analytics.group",
   "        \x7d;",
   "        event[captured.key] = captured.value;",
   "        event.type = step.analytics.type;",
   "        event.event = \"submitted\";",
   "        event.offset = host.currentTime();",
   "        host.track(step.analytics.channel, event);",
   "        enter(step.next);",
   "      \x7d",
   "",
   "      manifest.steps.forEach(function (step) \x7b",
   "        for (var star = 1; star <= step.maxStars; star++) \x7b",
   "          (function (count) \x7b",
   "            var el = find(\"#\" + step.stepId + \" .starBtn\" + count);",
   "            if (el) \x7b",
   "              el.addEventListener(\"click\", function () \x7b",
   "                selectStar(step, count);",
   "              \x7d);",
   "            \x7d",
   "          \x7d)(star);",
   "        \x7d",
   "        var button = find(\"#\" + step.submitId);",
   "        if (button) \x7b",
   "          button.addEventListener(\"click\", function () \x7b",
   "            submit(step);",
   "          \x7d);",
   "        \x7d",
   "      \x7d);",
   "",
   "      enter(manifest.initial);",
   "    \x7d",
   "  \x7d;",
   "\x7d)();",
   ""]

/-- The script. -/
def script : List Char := Template.lines scriptLines

end VideoSurvey.Overlay
